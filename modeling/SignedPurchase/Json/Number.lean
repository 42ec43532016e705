import SignedPurchase.Number.Shortest

/-
**Numbers of a text.**

A numeral is what is written; a number is what it stands for. Whole numerals within the range of
sixty-four bits, signed or unsigned, are integers; every other numeral is a fraction.

* `Numeral.number?` gives the number of a numeral, or nothing when it is too large;
* `Number.text` writes a number.

The fraction of a numeral is not the nearest one: as many leading digits as fit into sixty-four bits
are rounded once, and the power of ten is multiplied or divided in afterwards.
-/

namespace SignedPurchase

namespace Json

/-- A number: an integer of at most sixty-four bits, or a fraction. -/
inductive Number where
  | integer (value : Int)
  | fraction (value : Binary64)
  deriving DecidableEq, Repr

/-- A number as it is written: sign, digits before and after the point, sign and digits of the
exponent. -/
structure Numeral where
  negative : Bool
  whole : List Nat
  decimals : Option (List Nat)
  exponent : Option (Bool × List Nat)
  deriving DecidableEq, Repr

/-- Appends digits to a number as long as it stays within a limit, and gives the digits left. -/
def gather (limit : Nat) : Nat → List Nat → Nat × List Nat
  | value, [] => (value, [])
  | value, digit :: rest =>
    if value * 10 + digit ≤ limit then gather limit (value * 10 + digit) rest
    else (value, digit :: rest)

/-- Divides by the greatest power of ten a number of times, stopping at zero. -/
def sink : Nat → Binary64 → Binary64
  | 0, number => number
  | times + 1, number =>
    if number.isZero then number
    else sink times ((number.over? (Binary64.powerOfTen 308)).getD (Binary64.zero false))

/-- A significand times a power of ten, rounded once for the significand and once for every
multiplication or division. -/
def scaled? (significand : Nat) (exponent : Int) : Option Binary64 :=
  let start := Binary64.ofNat significand
  if 0 ≤ exponent then
    if exponent ≤ 308 then start.times? (Binary64.powerOfTen exponent.toNat)
    else if start.isZero then some start
    else none
  else
    let places := (-exponent).toNat
    let steps := (places - 1) / 308
    (sink steps start).over? (Binary64.powerOfTen (places - 308 * steps))

namespace Numeral

/-- The largest number of sixty-four bits. -/
def largestWord : Nat := UInt64.size - 1

/-- The largest exponent that is read to its end. -/
def largestExponent : Nat := 0x7FFFFFFF

/-- The number of a numeral without point and exponent whose digits fit into sixty-four bits. -/
def wholeNumber (negative : Bool) (value : Nat) : Number :=
  if negative then
    if value = 0 || 0x8000000000000000 < value then .fraction ((Binary64.ofNat value).withSign true)
    else .integer (-(value : Int))
  else .integer value

/-- The magnitude of a numeral with point, exponent or too many digits. -/
def fraction? (numeral : Numeral) : Option Binary64 :=
  let (whole, spilled) := gather largestWord 0 numeral.whole
  let decimals := numeral.decimals.getD []
  let (significand, dropped) := gather largestWord whole decimals
  let scale : Int := (spilled.length : Int) - ((decimals.length - dropped.length : Nat) : Int)
  match numeral.exponent with
  | none => scaled? significand scale
  | some (negative, digits) =>
    let (exponent, excess) := gather largestExponent 0 digits
    if excess.isEmpty then
      scaled? significand (if negative then scale - exponent else scale + exponent)
    else if significand = 0 || negative then some (Binary64.zero false)
    else none

/-- The number that a numeral stands for, unless it is too large. -/
def number? (numeral : Numeral) : Option Number :=
  let (whole, spilled) := gather largestWord 0 numeral.whole
  if numeral.decimals.isNone && numeral.exponent.isNone && spilled.isEmpty then
    some (wholeNumber numeral.negative whole)
  else
    match numeral.fraction? with
    | some magnitude => some (.fraction (magnitude.withSign numeral.negative))
    | none => none

end Numeral

/-- The decimal text of an integer. -/
def integerText (value : Int) : String :=
  if value < 0 then String.ofList ('-' :: Nat.toDigits 10 value.natAbs)
  else String.ofList (Nat.toDigits 10 value.toNat)

/-- The text of a number. -/
def Number.text : Number → String
  | .integer value => integerText value
  | .fraction value => value.text

end Json

end SignedPurchase
