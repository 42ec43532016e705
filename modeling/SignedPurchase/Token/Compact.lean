import SignedPurchase.Failure
import SignedPurchase.Text.Base64
import SignedPurchase.Text.Utf8

/-
**Compact tokens.**

A signed token is a text of three segments with dots between them: header, payload and signature,
each in base64. Nothing here establishes trust.

* `CompactToken.parse` splits a text at its dots, of which there must be two;
* `CompactToken.text` is the text that a token was split from;
* `CompactToken.signingInput` is what the signature covers, cut out of that text by its size in bytes;
* `CompactToken.headerBytes?`, `payloadBytes` and `signatureBytes` decode the segments.
-/

namespace SignedPurchase

/-- The three segments of a signed token. The text that was split is not kept beside them, for they
give it back. -/
structure CompactToken where
  header : List Char
  payload : List Char
  signature : List Char
  deriving DecidableEq, Repr

namespace CompactToken

/-- The pieces of a text between its dots. There is always at least one. -/
def segments : List Char → List (List Char)
  | [] => [[]]
  | char :: rest =>
    if char = '.' then [] :: segments rest
    else
      match segments rest with
      | [] => [[char]]
      | first :: others => (char :: first) :: others

/-- The token of a text. -/
def parse (text : String) : Outcome CompactToken :=
  match segments text.toList with
  | [header, payload, signature] => .ok ⟨header, payload, signature⟩
  | others => .error (.malformedToken others.length)

/-- The text of a token. -/
def text (token : CompactToken) : String :=
  String.ofList (token.header ++ '.' :: (token.payload ++ '.' :: token.signature))

/-- How many bytes of the text the signature covers: those of the header, of a dot and of the
payload. -/
def signedSize (token : CompactToken) : Nat :=
  (String.ofList token.header).utf8ByteSize + 1 + (String.ofList token.payload).utf8ByteSize

/-- A segment after a dot. -/
theorem ofList_dotted (segment : List Char) :
    String.ofList ('.' :: segment) = "." ++ String.ofList segment :=
  @String.ofList_append ['.'] segment

/-- The header, a dot and the payload are that many bytes. -/
theorem utf8ByteSize_signed (token : CompactToken) :
    (String.ofList (token.header ++ '.' :: token.payload)).utf8ByteSize = token.signedSize := by
  have dot : ".".utf8ByteSize = 1 := rfl
  rw [String.ofList_append, ofList_dotted, String.utf8ByteSize_append, String.utf8ByteSize_append,
    dot, signedSize, Nat.add_assoc]

/-- A dot and the signature come after them. -/
theorem text_eq_append (token : CompactToken) :
    token.text = String.ofList (token.header ++ '.' :: token.payload) ++
      String.ofList ('.' :: token.signature) := by
  rw [text, ← String.ofList_append, List.append_assoc, List.cons_append]

/-- The text that the signature covers. -/
def signingInput (token : CompactToken) : String :=
  Utf8.front token.text token.signedSize
    (Utf8.isValid_of_append token.text_eq_append token.utf8ByteSize_signed)

/-- The bytes of a segment, with or without padding. -/
def segmentBytes? (segment : List Char) : Option Bytes :=
  Base64.decode? .urlSafe .indifferent segment

/-- The bytes of the header. -/
def headerBytes? (token : CompactToken) : Option Bytes :=
  segmentBytes? token.header

/-- The bytes of the payload. They are not to be trusted before the signature is checked. -/
def payloadBytes (token : CompactToken) : Outcome Bytes :=
  match segmentBytes? token.payload with
  | some bytes => .ok bytes
  | none => .error (.undecodedPayload "invalid base64url payload")

/-- The bytes of the signature. -/
def signatureBytes (token : CompactToken) : Outcome Bytes :=
  match segmentBytes? token.signature with
  | some bytes => .ok bytes
  | none => .error (.invalidSignature "invalid base64url signature")

end CompactToken

end SignedPurchase
