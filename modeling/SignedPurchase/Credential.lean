import SignedPurchase.Digest.Sha2
import SignedPurchase.Text.Hex
import SignedPurchase.Text.Quoted
import SignedPurchase.Text.Utf8

/-
**Credentials.**

A credential names an issuer, a key and an app, and holds the private key that signs for them.

* `Credential.fingerprint` tells credentials apart without showing the key. It is the digest of
  `Credential.spelling`, in which each field is preceded by its length, so that no bytes can be moved
  from one field to another;
* `Credential.diagnostic` shows a credential without its key.
-/

namespace SignedPurchase

/-- Who signs bearer tokens, and with which key. -/
structure Credential where
  issuerId : String
  keyId : String
  bundleId : String
  /-- The private key as its file has it. -/
  privateKey : Bytes
  deriving DecidableEq, Repr

namespace Credential

/-- The fields as bytes. -/
def fields (credential : Credential) : List Bytes :=
  [Utf8.encode credential.issuerId, Utf8.encode credential.keyId,
    Utf8.encode credential.bundleId, credential.privateKey]

/-- Bytes after their length in eight bytes. -/
def measured (field : Bytes) : Bytes :=
  Bytes.ofNat 8 field.length ++ field

/-- All fields, each after its length. -/
def spelling (credential : Credential) : Bytes :=
  credential.fields.flatMap measured

/-- The digest of all fields, in hexadecimal digits. -/
def fingerprint (credential : Credential) : String :=
  Hex.encode (Digest.sha256 credential.spelling)

/-- A credential as diagnostics show it. -/
def diagnostic (credential : Credential) : String :=
  "AuthCredential \x7b issuer_id: " ++ Quoted.quote credential.issuerId ++
    ", key_id: " ++ Quoted.quote credential.keyId ++
    ", bundle_id: " ++ Quoted.quote credential.bundleId ++
    ", private_key: \"<redacted>\" \x7d"

end Credential

end SignedPurchase
