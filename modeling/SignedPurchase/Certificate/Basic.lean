import SignedPurchase.Certificate.Extension
import SignedPurchase.Certificate.Name
import SignedPurchase.Certificate.Time

/-
**Certificates.**

A certificate names a subject and its key, and an issuer that vouches for them with a signature.

* `Certificate.ofBytes?` reads a certificate; bytes after it are passed over;
* `Certificate.constraints` finds what it says about its subject as an issuer.
-/

namespace SignedPurchase

/-- An algorithm with its parameters. -/
structure Algorithm where
  kind : Oid
  parameters : Option Der.Element
  deriving DecidableEq, Repr

/-- A public key with its algorithm. -/
structure PublicKeyInfo where
  algorithm : Algorithm
  key : Bytes
  /-- The bytes that were read. -/
  raw : Bytes
  deriving DecidableEq, Repr

/-- A certificate. -/
structure Certificate where
  issuer : Name
  subject : Name
  notBefore : CertificateTime
  notAfter : CertificateTime
  publicKey : PublicKeyInfo
  extensions : List Extension
  /-- The bytes that the signature covers. -/
  signed : Bytes
  signatureAlgorithm : Algorithm
  signature : Bytes
  deriving DecidableEq, Repr

/-! ### Reading -/

/-- The algorithm at the front. Parameters that do not even begin are absent. -/
def Algorithm.read? (bytes : Bytes) : Option (Algorithm × Bytes) :=
  match Der.content? Der.sequence bytes with
  | none => none
  | some (content, rest) =>
    match Oid.read? content with
    | none => none
    | some (kind, content) =>
      match Der.header? content with
      | none => some (⟨kind, none⟩, rest)
      | some _ =>
        match Der.element? content with
        | none => none
        | some (element, _) => some (⟨kind, some element⟩, rest)

/-- The string of bits at the front. -/
def readBits? (bytes : Bytes) : Option (Bytes × Bytes) :=
  match Der.simple? Der.bitString bytes with
  | none => none
  | some (content, rest) =>
    match Der.bits? content with
    | some bits => some (bits, rest)
    | none => none

/-- The public key at the front. Its bytes end after the key itself. -/
def PublicKeyInfo.read? (bytes : Bytes) : Option (PublicKeyInfo × Bytes) :=
  match Der.content? Der.sequence bytes with
  | none => none
  | some (content, rest) =>
    match Algorithm.read? content with
    | none => none
    | some (algorithm, content) =>
      match readBits? content with
      | none => none
      | some (key, left) => some (⟨algorithm, key, Der.consumed bytes (left ++ rest)⟩, rest)

/-- A number that is not negative and fits into thirty-two bits, in as few bytes as it can be written. -/
def readWord? (bytes : Bytes) : Option Nat :=
  match Der.simple? Der.integer bytes with
  | some (content, _) => if Der.isShortest content then Der.word? content else none
  | none => none

/-- Passes over the version, which may be missing. -/
def skipVersion? (bytes : Bytes) : Option Bytes :=
  match bytes with
  | [] => some []
  | bytes =>
    match Der.element? bytes with
    | none => none
    | some (element, rest) =>
      if element.tag.family = 2 && element.tag.number = 0 then
        match readWord? element.content with
        | some _ => some rest
        | none => none
      else some bytes

/-- Passes over the serial number, which may be any integer. -/
def skipSerial? (bytes : Bytes) : Option Bytes :=
  match Der.content? Der.integer bytes with
  | some (_, rest) => some rest
  | none => none

/-- Passes over an identifier of the issuer or the subject, which may be missing. -/
def skipUnique? (number : Nat) (bytes : Bytes) : Option Bytes :=
  match bytes with
  | [] => some []
  | bytes =>
    match Der.element? bytes with
    | none => none
    | some (element, rest) =>
      if element.tag.family = 2 && element.tag.number = number then
        if element.content.isEmpty then none else some rest
      else some bytes

/-- The two bounds of validity at the front. -/
def readValidity? (bytes : Bytes) : Option ((CertificateTime × CertificateTime) × Bytes) :=
  match Der.content? Der.sequence bytes with
  | none => none
  | some (content, rest) =>
    match CertificateTime.read? content with
    | none => none
    | some (notBefore, content) =>
      match CertificateTime.read? content with
      | none => none
      | some (notAfter, _) => some ((notBefore, notAfter), rest)

namespace Certificate

/-- The signature of a certificate, with its algorithm. -/
structure Seal where
  algorithm : Algorithm
  signature : Bytes

/-- Reads the parts of the body, in their order. -/
def ofBody? (body signed : Bytes) (stamp : Seal) : Option Certificate := do
  let rest ← skipVersion? body
  let rest ← skipSerial? rest
  let (_, rest) ← Algorithm.read? rest
  let (issuer, rest) ← Name.read? rest
  let ((notBefore, notAfter), rest) ← readValidity? rest
  let (subject, rest) ← Name.read? rest
  let (publicKey, rest) ← PublicKeyInfo.read? rest
  let rest ← skipUnique? 1 rest
  let rest ← skipUnique? 2 rest
  let extensions ← Extension.readAll? rest
  pure
    { issuer, subject, notBefore, notAfter, publicKey, extensions, signed
      signatureAlgorithm := stamp.algorithm
      signature := stamp.signature }

/-- The certificate at the front. -/
def ofBytes? (bytes : Bytes) : Option Certificate := do
  let (content, _) ← Der.content? Der.sequence bytes
  let (body, rest) ← Der.content? Der.sequence content
  let signed := Der.consumed content rest
  let (algorithm, rest) ← Algorithm.read? rest
  let (signature, _) ← readBits? rest
  ofBody? body signed ⟨algorithm, signature⟩

/-! ### Questions -/

/-- What a certificate says about its subject as an issuer. -/
inductive Standing where
  /-- It says nothing, or nothing that can be read. -/
  | silent
  | stated (constraints : BasicConstraints)
  /-- It says it more than once. -/
  | repeated
  deriving DecidableEq, Repr

/-- What a certificate says about its subject as an issuer. -/
def standing (certificate : Certificate) : Standing :=
  match certificate.extensions.filter fun extension =>
      extension.kind = Extension.basicConstraints with
  | [] => .silent
  | [single] =>
    match BasicConstraints.read? single.value with
    | some constraints => .stated constraints
    | none => .silent
  | _ => .repeated

/-- Whether a certificate was issued in the name of the subject of another. -/
def namesIssuer (certificate issuer : Certificate) : Bool :=
  certificate.issuer.raw = issuer.subject.raw

/-- Whether subject and issuer bear the same name. -/
def isSelfIssued (certificate : Certificate) : Bool :=
  certificate.namesIssuer certificate

/-- Whether a time is within the bounds of validity, both included. -/
def isValidAt (certificate : Certificate) (time : CertificateTime) : Bool :=
  certificate.notBefore.atMost time && time.atMost certificate.notAfter

/-- The first extension that must be understood and is not. -/
def obstacle? (certificate : Certificate) : Option Extension :=
  certificate.extensions.find? fun extension => extension.critical && !extension.isKnown

end Certificate

end SignedPurchase
