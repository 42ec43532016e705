import SignedPurchase.Text.Printable

/-
**Quoted text.**

A quotation shows a text between quotation marks so that every character can be told apart: the
quotation mark and the backslash are written with a backslash, the tabulator and the line ends by
their letters, and every character that cannot stand for itself by its number.

* `Quoted.quote` writes the quotation of a text.
-/

namespace SignedPurchase

namespace Quoted

/-- A character by its number, in hexadecimal digits without leading zeros. -/
def byNumber (char : Char) : List Char :=
  '\\' :: 'u' :: '\x7b' :: (Nat.toDigits 16 char.toNat ++ ['\x7d'])

/-- One character of a quotation. -/
def character (char : Char) : List Char :=
  if char = '\x00' then ['\\', '0']
  else if char = '\t' then ['\\', 't']
  else if char = '\r' then ['\\', 'r']
  else if char = '\n' then ['\\', 'n']
  else if char = '\\' then ['\\', '\\']
  else if char = '"' then ['\\', '"']
  else if Printable.isHidden char then byNumber char
  else [char]

/-- A text between quotation marks. -/
def quote (text : String) : String :=
  String.ofList ('"' :: (text.toList.flatMap character ++ ['"']))

end Quoted

end SignedPurchase
