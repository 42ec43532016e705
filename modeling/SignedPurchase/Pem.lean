import SignedPurchase.Text.Base64
import SignedPurchase.Text.Blank
import SignedPurchase.Text.Utf8

/-
**Blocks of base64 in a text.**

A block stands between `-----BEGIN tag-----` and `-----END tag-----`. Text around it is passed over,
and only the first block counts. Its lines may have any length and blanks at either end; an empty
line separates lines of the form `key: value` from the body.

* `PemBlock.read?` reads the first block of a text in bytes.
-/

namespace SignedPurchase

/-- A block: its tag and its content. -/
structure PemBlock where
  tag : String
  content : Bytes
  deriving DecidableEq, Repr

namespace PemBlock

/-- What follows the first place at which a mark was seen whole. The second argument is the part of
the mark that is still to be seen; on a byte that does not fit, the mark is sought anew after it. -/
def after? (mark : Bytes) : Bytes → Bytes → Option Bytes
  | [], rest => some rest
  | _ :: _, [] => none
  | expected :: pending, byte :: rest =>
    if byte = expected then after? mark pending rest else after? mark mark rest

/-- What stands before and after the first occurrence of a mark. -/
def cut? (mark bytes : Bytes) : Option (Bytes × Bytes) :=
  match after? mark mark bytes with
  | some rest => some (bytes.take (bytes.length - rest.length - mark.length), rest)
  | none => none

/-- Whether a byte is a blank or a line end. -/
def isSpace (byte : UInt8) : Bool :=
  byte == 0x20 || byte == 0x0A || byte == 0x0D || byte == 0x09

/-- The mark before a tag at the start of a block. -/
def beginMark : Bytes := Utf8.encode "-----BEGIN "

/-- The mark before a tag at the end of a block. -/
def endMark : Bytes := Utf8.encode "-----END "

/-- The mark after a tag. -/
def tagMark : Bytes := Utf8.encode "-----"

/-- The lines before the first empty one, and the body after it. Without an empty line, all is
body. -/
def separate (inside : Bytes) : Bytes × Bytes :=
  match cut? [0x0A, 0x0A] inside with
  | some parts => parts
  | none =>
    match cut? [0x0D, 0x0A, 0x0D, 0x0A] inside with
    | some parts => parts
    | none => ([], inside)

/-- The content of a body. -/
def contentOf? (body : Bytes) : Option Bytes :=
  match Utf8.decode? body with
  | some text =>
    Base64.decode? .standard .required ((Blank.lines text.toList).flatMap Blank.trim)
  | none => none

/-- Whether each line is of the form `key: value`. -/
def areHeaders (lines : Bytes) : Bool :=
  match Utf8.decode? lines with
  | some text => (Blank.filledLines text.toList).all fun line => line.contains ':'
  | none => false

/-- The first block of a text. -/
def read? (bytes : Bytes) : Option PemBlock := do
  let (_, rest) ← cut? beginMark bytes
  let (first, rest) ← cut? tagMark rest
  let (inside, rest) ← cut? endMark (rest.dropWhile isSpace)
  let (last, _) ← cut? tagMark rest
  let (headers, body) := separate inside
  let tag ← Utf8.decode? first
  let content ← contentOf? body
  if !first.isEmpty && first = last && areHeaders headers then some ⟨tag, content⟩ else none

end PemBlock

end SignedPurchase
