/-
**Counts as decimal text.**

A count is written in digits, after a plus sign or nothing. There is at least one digit, zeros may
stand in front, and the number must fit into sixty-four bits.

* `Count.read?` reads a count.
-/

namespace SignedPurchase

namespace Count

/-- The value of a digit. -/
def digit? (char : Char) : Option Nat :=
  if '0' ≤ char && char ≤ '9' then some (char.toNat - 48) else none

/-- Goes on from a value, as long as it fits into sixty-four bits. -/
def onward? (value : Nat) : List Char → Option UInt64
  | [] => some (UInt64.ofNat value)
  | char :: rest =>
    match digit? char with
    | some digit => if value * 10 + digit < UInt64.size then onward? (value * 10 + digit) rest else none
    | none => none

/-- The digits after a plus sign or nothing. -/
def unsigned : List Char → List Char
  | '+' :: rest => rest
  | digits => digits

/-- The number of a text. -/
def read? (text : String) : Option UInt64 :=
  match unsigned text.toList with
  | [] => none
  | digits => onward? 0 digits

end Count

end SignedPurchase
