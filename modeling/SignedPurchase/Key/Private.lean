import SignedPurchase.Key.Public
import SignedPurchase.Pem

/-
**Keys that sign bearer tokens.**

A private key is kept as the text of its file. It is usable when the first block of that text is a
`PRIVATE KEY` that holds a document on an elliptic key, and the document holds a key of the curve of
256 bits.

* `PrivateKeyInfo.ofBytes?` reads the document, of either version;
* `PrivateKeyInfo.scalar?` gives its key;
* `usablePrivateKey` classifies a text: a document, unreadable, or of another kind.
-/

namespace SignedPurchase

/-- A private key with its algorithm. -/
structure PrivateKeyInfo where
  algorithm : Oid
  /-- The parameters as they are written, if there are any. -/
  parameters : Bytes
  key : Bytes
  deriving DecidableEq, Repr

namespace PrivateKeyInfo

/-- Whether the numbers of an identifier after the first two are whole and fit into thirty-two bits. -/
def numbersFit : (value : Nat) → Bytes → Bool
  | value, [] => value == 0
  | value, byte :: rest =>
    let value := value * 128 + byte.toNat % 128
    if value < UInt32.size then (if byte < 0x80 then numbersFit 0 rest else numbersFit value rest)
    else false

/-- Whether an identifier has at least three bytes and its numbers are in bounds. -/
def isIdentifier (bytes : Bytes) : Bool :=
  match bytes with
  | first :: second :: third :: rest =>
    bytes.length ≤ 39 && first ≤ 119 && numbersFit 0 (second :: third :: rest) &&
      ((third :: rest).getLast?.getD 0x80) < 0x80
  | _ => false

/-- The element at the front, with any small tag. -/
def anyStrict? (bytes : Bytes) : Option (UInt8 × Bytes × Bytes) :=
  match bytes with
  | [] => none
  | tag :: _ =>
    if tag.toNat % 32 = 31 then none
    else
      match Der.Strict.content? tag bytes with
      | some (content, rest) => some (tag, content, rest)
      | none => none

/-- Whether parameters are absent or a single element. -/
def areParameters (bytes : Bytes) : Bool :=
  match bytes with
  | [] => true
  | bytes =>
    match anyStrict? bytes with
    | some (_, _, []) => true
    | _ => false

/-- The number of a mark of the document, or nothing for other tags. -/
def markNumber? (tag : UInt8) : Option Nat :=
  if 0x80 ≤ tag && tag ≤ 0xBF then some (tag.toNat % 32) else none

/-- Whether each element is a mark around a single element. -/
def areExtras : Nat → Bytes → Bool
  | _, [] => true
  | 0, _ => false
  | limit + 1, bytes =>
    match anyStrict? bytes with
    | some (tag, content, rest) =>
      (markNumber? tag).isSome && tag.toNat / 32 % 2 == 1 && !content.isEmpty &&
        areParameters content && areExtras limit rest
    | none => false

/-- Whether the rest of a document is well formed, and a public key stands in it exactly when one
must. Marks with a smaller number may stand before the public key. -/
def isRest (expected : Bool) : Nat → Bytes → Bool
  | _, [] => !expected
  | 0, _ => false
  | limit + 1, bytes =>
    match anyStrict? bytes with
    | some (tag, content, rest) =>
      match markNumber? tag with
      | some 0 => isRest expected limit rest
      | some 1 =>
        expected && tag == 0x81 && content.head? == some 0x00 && areExtras limit rest
      | _ => !expected && areExtras (limit + 1) bytes
    | none => false

/-- The document of its bytes. The second version holds a public key, the first one does not. -/
def ofBytes? (bytes : Bytes) : Option PrivateKeyInfo := do
  let content ← Der.Strict.only? 0x30 bytes
  let (version, rest) ← Der.Strict.natural? content
  let (algorithm, rest) ← Der.Strict.content? 0x30 rest
  let (kind, parameters) ← Der.Strict.content? 0x06 algorithm
  let (key, rest) ← Der.Strict.content? 0x04 rest
  if version ≤ 1 && isIdentifier kind && areParameters parameters &&
      isRest (version == 1) rest.length rest then
    some ⟨⟨kind⟩, parameters, key⟩
  else none

/-! ### The key of the curve -/

/-- The parameters and the public key that may follow a key: the first an identifier, the second a
string of bits. -/
def companions? (bytes : Bytes) : Option (Option Bytes) := do
  let rest ←
    match Der.Strict.content? 0xA0 bytes with
    | some (parameters, rest) =>
      match Der.Strict.only? 0x06 parameters with
      | some identifier => if isIdentifier identifier then some rest else none
      | none => none
    | none => some bytes
  match rest with
  | [] => some none
  | rest =>
    let content ← Der.Strict.only? 0xA1 rest
    match Der.Strict.only? 0x03 content with
    | some (0x00 :: form) => some (some form)
    | _ => none

/-- Whether a public key that stands beside a key belongs to it, in any of its forms. -/
def matchesScalar (scalar : Nat) (form : Bytes) : Bool :=
  match pointOfForm? form with
  | some point => Curve.p256.multipleOfBase scalar == some point
  | none => false

/-- The key inside a document: a number between one and the order of the curve, in at least
twenty-four and at most thirty-two bytes. -/
def scalarOf? (bytes : Bytes) : Option Nat := do
  let content ← Der.Strict.only? 0x30 bytes
  let (version, rest) ← Der.Strict.natural? content
  let (digits, rest) ← Der.Strict.content? 0x04 rest
  let companion ← companions? rest
  let scalar := Bytes.toNat digits
  if version = 1 && 24 ≤ digits.length && digits.length ≤ 32 && 0 < scalar &&
      scalar < Curve.p256.order && (companion.all fun form => matchesScalar scalar form) then
    some scalar
  else none

/-- The key of a document on the curve of 256 bits. -/
def scalar? (info : PrivateKeyInfo) : Option Nat :=
  if info.algorithm = Oid.ellipticKey && isP256 info.parameters then scalarOf? info.key else none

end PrivateKeyInfo

/-- A private key that can sign. -/
structure UsableKey where
  /-- The document. -/
  document : Bytes
  scalar : Nat
  deriving DecidableEq, Repr

/-- The usable key in the text of a file. What cannot be read is told apart from what is read but of
another kind. -/
def usablePrivateKey (text : Bytes) : Outcome UsableKey :=
  match PemBlock.read? text with
  | none => .error (.unreadableKey "malformed PEM")
  | some block =>
    if block.tag ≠ "PRIVATE KEY" then
      .error (.unreadableKey ("expected a PRIVATE KEY block, found " ++ block.tag))
    else
      match PrivateKeyInfo.ofBytes? block.content with
      | none => .error (.unreadableKey "not a PKCS#8 private key")
      | some info =>
        if info.algorithm ≠ Oid.ellipticKey then .error (.wrongKeyType info.algorithm.text)
        else
          match info.scalar? with
          | some scalar => .ok ⟨block.content, scalar⟩
          | none => .error (.wrongKeyType "EC key outside P-256")

end SignedPurchase
