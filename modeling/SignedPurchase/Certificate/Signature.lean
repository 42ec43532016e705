import SignedPurchase.Certificate.Basic
import SignedPurchase.Signature.Ecdsa
import SignedPurchase.Signature.Ed25519
import SignedPurchase.Signature.Rsa

/-
**Signatures on certificates.**

* `Scheme.ofAlgorithm?` names the way in which a certificate is signed;
* `Certificate.isSignedBy` checks a certificate against the key of another.

The key is read as the scheme asks; what the issuer's certificate says about the kind of its key
counts only for the curve.
-/

namespace SignedPurchase

/-- A way to sign. -/
inductive Scheme where
  | elliptic (hash : Rsa.Hash)
  | padded (hash : Rsa.Hash)
  | salted (hash : Rsa.Hash)
  | edwards
  deriving DecidableEq, Repr

namespace Scheme

/-- The digest named by the parameters of salted signatures, which must all be readable. -/
def saltedHash? (parameters : Option Der.Element) : Option Rsa.Hash := do
  let element ← parameters
  if element.tag.number ≠ Der.sequence then none
  else
    let (first, _) ← Der.element? element.content
    if first.tag.family = 2 && first.tag.number = 0 then
      let (algorithm, _) ← Algorithm.read? first.content
      if algorithm.kind = Oid.sha256 then some .sha256
      else if algorithm.kind = Oid.sha384 then some .sha384
      else if algorithm.kind = Oid.sha512 then some .sha512
      else none
    else none

/-- The scheme of an algorithm. -/
def ofAlgorithm? (algorithm : Algorithm) : Option Scheme :=
  let kind := algorithm.kind
  if kind = Oid.ecdsaSha256 then some (.elliptic .sha256)
  else if kind = Oid.ecdsaSha384 then some (.elliptic .sha384)
  else if kind = Oid.rsaSha1 || kind = Oid.olderRsaSha1 then some (.padded .sha1)
  else if kind = Oid.rsaSha256 then some (.padded .sha256)
  else if kind = Oid.rsaSha384 then some (.padded .sha384)
  else if kind = Oid.rsaSha512 then some (.padded .sha512)
  else if kind = Oid.rsaSalted then (saltedHash? algorithm.parameters).map .salted
  else if kind = Oid.ed25519 then some .edwards
  else none

end Scheme

namespace PublicKeyInfo

/-- The curve that the parameters of a key name. -/
def curve? (info : PublicKeyInfo) : Option Curve :=
  match info.algorithm.parameters with
  | some element =>
    if element.tag.number = Der.objectIdentifier then
      if element.content = Oid.p256.bytes then some .p256
      else if element.content = Oid.p384.bytes then some .p384
      else none
    else none
  | none => none

/-- The two scalars of a signature, in a sequence. -/
def pair? (signature : Bytes) : Option Ecdsa.Pair :=
  match Der.Strict.only? 0x30 signature with
  | none => none
  | some content =>
    match Der.Strict.positive? content with
    | none => none
    | some (r, rest) =>
      match Der.Strict.positive? rest with
      | some (s, []) => some ⟨r, s⟩
      | _ => none

/-- Whether a signature belongs to a message under a key. -/
def verifies (info : PublicKeyInfo) (scheme : Scheme) (message signature : Bytes) : Bool :=
  match scheme with
  | .elliptic hash =>
    match info.curve? with
    | none => false
    | some curve =>
      match curve.pointOfBytes? info.key, pair? signature with
      | some point, some pair => Ecdsa.verifies curve point (hash.digest message) pair
      | _, _ => false
  | .padded hash =>
    match Rsa.Key.ofBytes? info.key with
    | some key => Rsa.verifiesPadded hash key message signature
    | none => false
  | .salted hash =>
    match Rsa.Key.ofBytes? info.key with
    | some key => Rsa.verifiesSalted hash key message signature
    | none => false
  | .edwards => Ed25519.verifies info.key message signature

end PublicKeyInfo

/-- Whether the signature on a certificate verifies under the key of another. -/
def Certificate.isSignedBy (certificate issuer : Certificate) : Bool :=
  match Scheme.ofAlgorithm? certificate.signatureAlgorithm with
  | some scheme => issuer.publicKey.verifies scheme certificate.signed certificate.signature
  | none => false

end SignedPurchase
