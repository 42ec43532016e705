import SignedPurchase.Text.Hex
import SignedPurchase.Text.Utf8

/-
**Escapes in addresses.**

A character that cannot stand for itself in an address is written by its bytes, each after a percent
sign in two hexadecimal digits with capital letters. What stands for itself depends on the place.

* `Escape.path` and `Escape.query` escape in the two places of an address that is being read. A percent
  sign stands for itself there, so that what is escaped already stays as it is;
* `Escape.form` escapes the name or the value of a field, in which a space becomes a plus sign.
-/

namespace SignedPurchase

namespace Escape

/-- One byte by its digits. -/
def byte (value : UInt8) : List Char :=
  ['%', Hex.digit Hex.capitalDigits (value.toNat / 16),
    Hex.digit Hex.capitalDigits (value.toNat % 16)]

/-- One character by its bytes. -/
def byBytes (char : Char) : List Char :=
  (Utf8.encode char.toString).flatMap byte

/-- Whether a character is neither a control, a space nor beyond ASCII. -/
def isGraphic (char : Char) : Bool :=
  '!' ≤ char && char ≤ '~'

/-- Whether a character stands for itself in a path. -/
def isPlainInPath (char : Char) : Bool :=
  isGraphic char && !"\"#<>?^`\x7b\x7d".toList.contains char

/-- Whether a character stands for itself in a query. -/
def isPlainInQuery (char : Char) : Bool :=
  isGraphic char && !"\"#<>'".toList.contains char

/-- Whether a character stands for itself in a field: letters, digits and four marks. -/
def isPlainInForm (char : Char) : Bool :=
  ('A' ≤ char && char ≤ 'Z') || ('a' ≤ char && char ≤ 'z') || ('0' ≤ char && char ≤ '9') ||
    "*-._".toList.contains char

/-- A part of a path. -/
def path (text : List Char) : List Char :=
  text.flatMap fun char => if isPlainInPath char then [char] else byBytes char

/-- A query. -/
def query (text : List Char) : List Char :=
  text.flatMap fun char => if isPlainInQuery char then [char] else byBytes char

/-- The name or the value of a field. -/
def form (text : List Char) : List Char :=
  text.flatMap fun char =>
    if isPlainInForm char then [char] else if char = ' ' then ['+'] else byBytes char

/-- A field: its name, an equals sign and its value. -/
def field (name value : List Char) : List Char :=
  form name ++ '=' :: form value

end Escape

end SignedPurchase
