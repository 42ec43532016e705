import SignedPurchase.Der.Element

/-
**Object identifiers.**

An identifier is a path of numbers, kept as its bytes; two identifiers are the same when their bytes
are.

* `Oid.text` writes the numbers with dots between them;
* the constants name the algorithms, curves and extensions in use.
-/

namespace SignedPurchase

/-- An object identifier as its bytes. -/
structure Oid where
  bytes : Bytes
  deriving DecidableEq, Repr

namespace Oid

/-- The numbers after the first two, each in groups of seven bits. What is unfinished at the end
counts as it is. -/
def numbers : (value : Nat) → Bytes → List Nat
  | _, [] => []
  | value, [byte] => [value * 128 + byte.toNat % 128]
  | value, byte :: rest =>
    let value := value * 128 + byte.toNat % 128
    if byte < 0x80 then value :: numbers 0 rest else numbers value rest

/-- All numbers. The first byte holds two of them. -/
def path (oid : Oid) : List Nat :=
  match oid.bytes with
  | [] => []
  | [0] => [0]
  | first :: rest => first.toNat / 40 :: first.toNat % 40 :: numbers 0 rest

/-- The numbers with dots between them. -/
def text (oid : Oid) : String :=
  String.intercalate "." (oid.path.map fun number => String.ofList (Nat.toDigits 10 number))

/-- The identifier at the front. -/
def read? (bytes : Bytes) : Option (Oid × Bytes) :=
  match Der.simple? Der.objectIdentifier bytes with
  | some (content, rest) => some (⟨content⟩, rest)
  | none => none

/-! ### Keys and curves -/

/-- Keys on elliptic curves. -/
def ellipticKey : Oid := ⟨[0x2A, 0x86, 0x48, 0xCE, 0x3D, 0x02, 0x01]⟩

/-- The curve of 256 bits. -/
def p256 : Oid := ⟨[0x2A, 0x86, 0x48, 0xCE, 0x3D, 0x03, 0x01, 0x07]⟩

/-- The curve of 384 bits. -/
def p384 : Oid := ⟨[0x2B, 0x81, 0x04, 0x00, 0x22]⟩

/-! ### Digests -/

/-- The digest of 256 bits. -/
def sha256 : Oid := ⟨[0x60, 0x86, 0x48, 0x01, 0x65, 0x03, 0x04, 0x02, 0x01]⟩

/-- The digest of 384 bits. -/
def sha384 : Oid := ⟨[0x60, 0x86, 0x48, 0x01, 0x65, 0x03, 0x04, 0x02, 0x02]⟩

/-- The digest of 512 bits. -/
def sha512 : Oid := ⟨[0x60, 0x86, 0x48, 0x01, 0x65, 0x03, 0x04, 0x02, 0x03]⟩

/-! ### Signatures -/

/-- Pairs of scalars over the digest of 256 bits. -/
def ecdsaSha256 : Oid := ⟨[0x2A, 0x86, 0x48, 0xCE, 0x3D, 0x04, 0x03, 0x02]⟩

/-- Pairs of scalars over the digest of 384 bits. -/
def ecdsaSha384 : Oid := ⟨[0x2A, 0x86, 0x48, 0xCE, 0x3D, 0x04, 0x03, 0x03]⟩

/-- Powers of a padded digest of 160 bits. -/
def rsaSha1 : Oid := ⟨[0x2A, 0x86, 0x48, 0x86, 0xF7, 0x0D, 0x01, 0x01, 0x05]⟩

/-- An older name of the same. -/
def olderRsaSha1 : Oid := ⟨[0x2B, 0x0E, 0x03, 0x02, 0x1D]⟩

/-- Powers of a padded digest of 256 bits. -/
def rsaSha256 : Oid := ⟨[0x2A, 0x86, 0x48, 0x86, 0xF7, 0x0D, 0x01, 0x01, 0x0B]⟩

/-- Powers of a padded digest of 384 bits. -/
def rsaSha384 : Oid := ⟨[0x2A, 0x86, 0x48, 0x86, 0xF7, 0x0D, 0x01, 0x01, 0x0C]⟩

/-- Powers of a padded digest of 512 bits. -/
def rsaSha512 : Oid := ⟨[0x2A, 0x86, 0x48, 0x86, 0xF7, 0x0D, 0x01, 0x01, 0x0D]⟩

/-- Powers of a salted digest. -/
def rsaSalted : Oid := ⟨[0x2A, 0x86, 0x48, 0x86, 0xF7, 0x0D, 0x01, 0x01, 0x0A]⟩

/-- Signatures on the Edwards curve. -/
def ed25519 : Oid := ⟨[0x2B, 0x65, 0x70]⟩

end Oid

end SignedPurchase
