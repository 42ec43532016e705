/-
**Binary fractions with 53 bits.**

The fractional numbers of a text are kept as a sign, a significand below `2 ^ 53` and a power of
two, and every operation is exact arithmetic followed by one rounding.

* `Binary64.rounded?` gives the nearest such number to a quotient, halves to the even significand,
  or nothing when the quotient is too large;
* `Binary64.times?` and `Binary64.over?` are product and quotient, rounded once.
-/

namespace SignedPurchase

/-- The number `± significand * 2 ^ exponent`. -/
structure Binary64 where
  negative : Bool
  significand : Nat
  exponent : Int
  deriving DecidableEq, Repr

namespace Binary64

/-- The least exponent. -/
def leastExponent : Int := -1074

/-- The greatest exponent. -/
def greatestExponent : Int := 971

/-- The least significand of 53 bits. Every significand is below its double. -/
def leastFull : Nat := 0x10000000000000

/-- Zero with a sign. -/
def zero (negative : Bool) : Binary64 := ⟨negative, 0, leastExponent⟩

/-- Whether the number is zero, of either sign. -/
def isZero (number : Binary64) : Bool :=
  number.significand == 0

/-- The number with the given sign. -/
def withSign (negative : Bool) (number : Binary64) : Binary64 :=
  { number with negative := negative }

/-- The quotient `numerator / (denominator * 2 ^ exponent)` as a pair. -/
def unscaled (numerator denominator : Nat) (exponent : Int) : Nat × Nat :=
  if 0 ≤ exponent then (numerator, denominator <<< exponent.toNat)
  else (numerator <<< (-exponent).toNat, denominator)

/-- The quotient rounded to the nearest whole number, halves to the even one. -/
def nearest (numerator denominator : Nat) : Nat :=
  let quotient := numerator / denominator
  let twice := 2 * (numerator % denominator)
  if twice > denominator || (twice == denominator && quotient % 2 == 1) then quotient + 1
  else quotient

/-- The exponent at which the quotient has a significand of 53 bits, or the least exponent. -/
def exponentOf (numerator denominator : Nat) : Int :=
  let magnitude : Int := (Nat.log2 numerator : Int) - (Nat.log2 denominator : Int)
  let (above, below) := unscaled numerator denominator magnitude
  let exponent := if above < below then magnitude - 53 else magnitude - 52
  max exponent leastExponent

/-- The nearest number to a quotient of whole numbers. -/
def rounded? (negative : Bool) (numerator denominator : Nat) : Option Binary64 :=
  if numerator = 0 then some (zero negative)
  else
    let exponent := exponentOf numerator denominator
    let (above, below) := unscaled numerator denominator exponent
    let significand := nearest above below
    let result : Binary64 :=
      if significand = 2 * leastFull then ⟨negative, leastFull, exponent + 1⟩
      else ⟨negative, significand, exponent⟩
    if result.exponent > greatestExponent then none else some result

/-- The magnitude as a quotient of whole numbers. -/
def ratio (number : Binary64) : Nat × Nat :=
  if 0 ≤ number.exponent then (number.significand <<< number.exponent.toNat, 1)
  else (number.significand, 1 <<< (-number.exponent).toNat)

/-- The nearest number to a whole number below `2 ^ 64`. -/
def ofNat (value : Nat) : Binary64 :=
  (rounded? false value 1).getD (zero false)

/-- The product, unless it is too large. -/
def times? (left right : Binary64) : Option Binary64 :=
  rounded? (left.negative != right.negative) (left.ratio.1 * right.ratio.1)
    (left.ratio.2 * right.ratio.2)

/-- The quotient, unless it is too large. -/
def over? (left right : Binary64) : Option Binary64 :=
  rounded? (left.negative != right.negative) (left.ratio.1 * right.ratio.2)
    (left.ratio.2 * right.ratio.1)

/-- The nearest number to a power of ten with exponent at most 308. -/
def powerOfTen (exponent : Nat) : Binary64 :=
  ofNat (Nat.pow 10 exponent)

end Binary64

end SignedPurchase
