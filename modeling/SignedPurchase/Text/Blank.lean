/-
**Blanks.**

* `Blank.isBlank` holds of the characters that only take room: the blank, the controls for lines and
  tabulators, and the wider and narrower blanks of typography;
* `Blank.trim` cuts blanks at both ends of a text.
-/

namespace SignedPurchase

namespace Blank

/-- Whether a character only takes room. -/
def isBlank (char : Char) : Bool :=
  let code := char.toNat
  (0x09 ≤ code && code ≤ 0x0D) || code == 0x20 || code == 0x85 || code == 0xA0 ||
    code == 0x1680 || (0x2000 ≤ code && code ≤ 0x200A) || code == 0x2028 || code == 0x2029 ||
    code == 0x202F || code == 0x205F || code == 0x3000

/-- A text without blanks at either end. -/
def trim (text : List Char) : List Char :=
  ((text.dropWhile isBlank).reverse.dropWhile isBlank).reverse

/-- The pieces of a text between its line ends. -/
def lines : List Char → List (List Char)
  | [] => [[]]
  | char :: rest =>
    if char = '\n' then [] :: lines rest
    else
      match lines rest with
      | [] => [[char]]
      | first :: others => (char :: first) :: others

/-- The lines of a text, of which the last one counts only when something stands on it. -/
def filledLines (text : List Char) : List (List Char) :=
  match (lines text).reverse with
  | [] :: others => others.reverse
  | others => others.reverse

end Blank

end SignedPurchase
