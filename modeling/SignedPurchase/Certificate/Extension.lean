import SignedPurchase.Der.Oid

/-
**Extensions of certificates.**

* `Extension.readAll?` reads the extensions, nothing else being allowed between them;
* `Extension.isKnown` tells whether the kind of an extension is understood;
* `BasicConstraints.read?` reads the one extension whose content counts: whether the subject is an
  authority, and how many authorities may stand below it.
-/

namespace SignedPurchase

/-- A statement about a certificate that goes beyond its fixed parts. -/
structure Extension where
  kind : Oid
  /-- Whether a reader that does not understand it must refuse the certificate. -/
  critical : Bool
  value : Bytes
  deriving DecidableEq, Repr

namespace Extension

/-- The truth value at the front, of which any byte but zero is true, or false when there is none. -/
def critical? (bytes : Bytes) : Option (Bool × Bytes) :=
  match Der.header? bytes with
  | none => some (false, bytes)
  | some ((tag, _), _) =>
    if tag.number = Der.boolean then
      match Der.simple? Der.boolean bytes with
      | some ([value], rest) => some (value != 0, rest)
      | _ => none
    else some (false, bytes)

/-- The extension at the front. What follows its value is passed over. -/
def read? (bytes : Bytes) : Option (Extension × Bytes) :=
  match Der.content? Der.sequence bytes with
  | none => none
  | some (content, rest) =>
    match Oid.read? content with
    | none => none
    | some (kind, content) =>
      match critical? content with
      | none => none
      | some (critical, content) =>
        match Der.simple? Der.octetString content with
        | none => none
        | some (value, _) => some (⟨kind, critical, value⟩, rest)

/-- The extensions that a content consists of, at most so many. -/
def readMany? : Nat → Bytes → Option (List Extension)
  | _, [] => some []
  | 0, _ => none
  | limit + 1, bytes =>
    match read? bytes with
    | none => none
    | some (extension, rest) =>
      match readMany? limit rest with
      | none => none
      | some others => some (extension :: others)

/-- The extensions at the end of a certificate's body. There may be none. The mark in front of their
sequence counts with its number only. -/
def readAll? (bytes : Bytes) : Option (List Extension) :=
  match bytes with
  | [] => some []
  | bytes =>
    match Der.header? bytes with
    | none => none
    | some ((tag, _), rest) =>
      if tag.number = 3 then
        match Der.content? Der.sequence rest with
        | some (content, []) => readMany? content.length content
        | _ => none
      else none

/-! ### Kinds -/

/-- The authority and path length of a subject. -/
def basicConstraints : Oid := ⟨[0x55, 0x1D, 0x13]⟩

/-- The last numbers of the known kinds that share their first numbers. -/
def knownNumbers : List UInt8 := [14, 15, 17, 18, 19, 20, 21, 24, 28, 30, 31, 32, 33, 35, 36, 37, 54]

/-- The other known kinds. -/
def otherKnown : List Bytes := [
  [0x2B, 0x06, 0x01, 0x05, 0x05, 0x07, 0x01, 0x01],
  [0x2B, 0x06, 0x01, 0x04, 0x01, 0xD6, 0x79, 0x02, 0x04, 0x02],
  [0x60, 0x86, 0x48, 0x01, 0x86, 0xF8, 0x42, 0x01, 0x01],
  [0x60, 0x86, 0x48, 0x01, 0x86, 0xF8, 0x42, 0x01, 0x0D]]

/-- Whether a kind is understood. Whether the content can be read does not matter. -/
def isKnown (extension : Extension) : Bool :=
  (knownNumbers.any fun number => extension.kind.bytes == [0x55, 0x1D, number]) ||
    otherKnown.contains extension.kind.bytes

end Extension

/-- What a certificate says about its subject as an issuer. -/
structure BasicConstraints where
  isAuthority : Bool
  /-- How many authorities may stand below, when that is limited. -/
  pathLength : Option Nat
  deriving DecidableEq, Repr

namespace BasicConstraints

/-- A truth value of one byte, of which any but zero is true. -/
def truth? (element : Der.Element) : Option Bool :=
  if element.tag.number = Der.boolean then
    match element.content with
    | [value] => some (value != 0)
    | _ => none
  else none

/-- A number of thirty-two bits. -/
def number? (element : Der.Element) : Option Nat :=
  if element.tag.number = Der.integer then Der.word? element.content else none

/-- The constraints in the value of an extension. -/
def read? (value : Bytes) : Option BasicConstraints :=
  match Der.content? Der.sequence value with
  | none => none
  | some (content, _) =>
    match Der.elements? content.length content with
    | some [] => some ⟨false, none⟩
    | some [single] =>
      match truth? single, number? single with
      | some isAuthority, _ => some ⟨isAuthority, none⟩
      | none, some length => some ⟨false, some length⟩
      | none, none => none
    | some [first, second] =>
      match truth? first, number? second with
      | some isAuthority, some length => some ⟨isAuthority, some length⟩
      | _, _ => none
    | _ => none

end BasicConstraints

end SignedPurchase
