import SignedPurchase.Number.Binary64

/-
**The shortest text of a binary fraction.**

A fraction is written with the fewest decimal digits that still single it out among all fractions,
and of these digits the nearest.

* `Shortest.digits` finds the digits and their power of ten;
* `Binary64.text` writes them: with a point for decimal exponents from -5 to 15, otherwise with one
  digit before the point and an exponent of at least two digits. A whole number keeps `.0`.
-/

namespace SignedPurchase

namespace Shortest

/-- The decimal digits of a number. -/
def decimal (value : Nat) : List Char :=
  Nat.toDigits 10 value

/-- The exponent of the leading decimal digit of a positive quotient. -/
def leadingExponent (numerator denominator : Nat) : Int :=
  if denominator ≤ numerator then ((decimal (numerator / denominator)).length : Int) - 1
  else
    let least := (decimal (denominator / numerator)).length - 1
    if denominator ≤ Nat.pow 10 least * numerator then -(least : Int) else -(least : Int) - 1

/-- The quotient in units of a power of ten, as a pair. -/
def inUnits (numerator denominator : Nat) (exponent : Int) : Nat × Nat :=
  if 0 ≤ exponent then (numerator, denominator * Nat.pow 10 exponent.toNat)
  else (numerator * Nat.pow 10 (-exponent).toNat, denominator)

/-- Whether `digits * 10 ^ exponent` rounds to the number. The bounds are halfway to the
neighbours, and belong to the number when its significand is even. -/
def singlesOut (number : Binary64) (digits : Nat) (exponent : Int) : Bool :=
  let narrow := number.significand == Binary64.leastFull && number.exponent != Binary64.leastExponent
  let low := 4 * number.significand - (if narrow then 1 else 2)
  let high := 4 * number.significand + 2
  let (above, below) :=
    if 0 ≤ exponent then (digits * Nat.pow 10 exponent.toNat, 1)
    else (digits, Nat.pow 10 (-exponent).toNat)
  let (scaledAbove, scaledBelow) := Binary64.unscaled above below (number.exponent - 2)
  if number.significand % 2 == 0 then
    low * scaledBelow ≤ scaledAbove && scaledAbove ≤ high * scaledBelow
  else
    low * scaledBelow < scaledAbove && scaledAbove < high * scaledBelow

/-- The digits on one decimal grid: the nearer neighbour of the number that singles it out, and of
two equally near ones the even one. -/
def onGrid (number : Binary64) (exponent : Int) : Option Nat :=
  let (above, below) := inUnits number.ratio.1 number.ratio.2 exponent
  let lower := above / below
  let twice := 2 * (above % below)
  let lowerFits := singlesOut number lower exponent
  let upperFits := singlesOut number (lower + 1) exponent
  let lowerNearer := twice < below || (twice == below && lower % 2 == 0)
  if lowerFits && (lowerNearer || !upperFits) then some lower
  else if upperFits then some (lower + 1)
  else none

/-- The digits on the coarsest grid that singles the number out, trying finer and finer grids. -/
def firstGrid (number : Binary64) (leading : Int) : (tries count : Nat) → Nat × Int
  | 0, _ => (0, 0)
  | tries + 1, count =>
    let exponent := leading - (count : Int)
    match onGrid number exponent with
    | some digits => (digits, exponent)
    | none => firstGrid number leading tries (count + 1)

/-- Moves trailing zeros into the power of ten. -/
def withoutZeros : (tries : Nat) → Nat × Int → Nat × Int
  | 0, pair => pair
  | tries + 1, (digits, exponent) =>
    if digits != 0 && digits % 10 == 0 then withoutZeros tries (digits / 10, exponent + 1)
    else (digits, exponent)

/-- The digits of a positive number and their power of ten. Seventeen digits always suffice. -/
def digits (number : Binary64) : Nat × Int :=
  let leading := leadingExponent number.ratio.1 number.ratio.2
  withoutZeros 18 (firstGrid number leading 18 0)

/-- Digits with a point after the given number of them. -/
def positional (digits : List Char) (point : Int) : List Char :=
  if point ≤ 0 then '0' :: '.' :: (List.replicate (-point).toNat '0' ++ digits)
  else if (digits.length : Int) ≤ point then
    digits ++ List.replicate (point.toNat - digits.length) '0' ++ ['.', '0']
  else digits.take point.toNat ++ '.' :: digits.drop point.toNat

/-- An exponent with its sign and at least two digits. -/
def exponentText (exponent : Int) : List Char :=
  let magnitude := decimal exponent.natAbs
  (if exponent < 0 then '-' else '+') ::
    (if magnitude.length < 2 then '0' :: magnitude else magnitude)

/-- Digits with a point after the first and an exponent. -/
def scientific (digits : List Char) (exponent : Int) : List Char :=
  match digits with
  | [] => []
  | [single] => single :: 'e' :: exponentText exponent
  | first :: rest => first :: '.' :: (rest ++ 'e' :: exponentText exponent)

end Shortest

/-- The text of a number. -/
def Binary64.text (number : Binary64) : String :=
  let magnitude :=
    if number.isZero then ['0', '.', '0']
    else
      let (value, power) := Shortest.digits number
      let written := Shortest.decimal value
      let point := (written.length : Int) + power
      if -5 < point && point ≤ 16 then Shortest.positional written point
      else Shortest.scientific written (point - 1)
  String.ofList (if number.negative then '-' :: magnitude else magnitude)

end SignedPurchase
