import SignedPurchase.Der.Element
import SignedPurchase.Digest.Sha1
import SignedPurchase.Digest.Sha2
import SignedPurchase.Number.Modular

/-
**Signatures by powers.**

A signature is a number below the modulus whose power gives the message back in a padded form.

* `Rsa.verifiesPadded` checks the fixed padding: the digest with its name after a row of ones;
* `Rsa.verifiesSalted` checks the salted padding, with a salt as long as the digest;
* `Rsa.Key.ofBytes?` reads a key and refuses one whose size or exponent is out of bounds.
-/

namespace SignedPurchase

namespace Rsa

/-- The digests that are signed. -/
inductive Hash where
  | sha1
  | sha256
  | sha384
  | sha512
  deriving DecidableEq, Repr

/-- The digest of a message. -/
def Hash.digest : Hash → Bytes → Bytes
  | .sha1 => Digest.sha1
  | .sha256 => Digest.sha256
  | .sha384 => Digest.sha384
  | .sha512 => Digest.sha512

/-- The number of bytes of a digest. -/
def Hash.size : Hash → Nat
  | .sha1 => 20
  | .sha256 => 32
  | .sha384 => 48
  | .sha512 => 64

/-- What stands in front of a digest to name it. -/
def Hash.name : Hash → Bytes
  | .sha1 =>
    [0x30, 0x21, 0x30, 0x09, 0x06, 0x05, 0x2B, 0x0E, 0x03, 0x02, 0x1A, 0x05, 0x00, 0x04, 0x14]
  | .sha256 =>
    [0x30, 0x31, 0x30, 0x0D, 0x06, 0x09, 0x60, 0x86, 0x48, 0x01, 0x65, 0x03, 0x04, 0x02, 0x01,
      0x05, 0x00, 0x04, 0x20]
  | .sha384 =>
    [0x30, 0x41, 0x30, 0x0D, 0x06, 0x09, 0x60, 0x86, 0x48, 0x01, 0x65, 0x03, 0x04, 0x02, 0x02,
      0x05, 0x00, 0x04, 0x30]
  | .sha512 =>
    [0x30, 0x51, 0x30, 0x0D, 0x06, 0x09, 0x60, 0x86, 0x48, 0x01, 0x65, 0x03, 0x04, 0x02, 0x03,
      0x05, 0x00, 0x04, 0x40]

/-- The least number of bits of a modulus. -/
def Hash.leastBits : Hash → Nat
  | .sha1 => 1024
  | _ => 2048

/-- The greatest number of bits of a modulus. -/
def greatestBits : Nat := 8192

/-- The greatest exponent of a key, of thirty-three bits. -/
def greatestExponent : Nat := 0x1FFFFFFFF

/-- A public key. -/
structure Key where
  modulus : Nat
  exponent : Nat
  deriving DecidableEq, Repr

/-- The number of bits of the modulus. -/
def Key.bits (key : Key) : Nat := Nat.log2 key.modulus + 1

/-- The number of bytes of the modulus. -/
def Key.width (key : Key) : Nat := (key.bits + 7) / 8

/-- Whether size and exponent of a key are within bounds. A size counts in whole bytes against the
lower bound. -/
def Key.isAdmissible (key : Key) (hash : Hash) : Bool :=
  hash.leastBits ≤ key.width * 8 && key.bits ≤ greatestBits && key.modulus % 2 == 1 &&
    3 ≤ key.exponent && key.exponent ≤ greatestExponent && key.exponent % 2 == 1

/-- The key of its bytes: modulus and exponent in a sequence. -/
def Key.ofBytes? (bytes : Bytes) : Option Key :=
  match Der.Strict.only? 0x30 bytes with
  | none => none
  | some content =>
    match Der.Strict.positive? content with
    | none => none
    | some (modulus, rest) =>
      match Der.Strict.positive? rest with
      | some (exponent, []) => some ⟨modulus, exponent⟩
      | _ => none

/-- The padded form that a signature gives back, as wide as the modulus. -/
def recovered? (key : Key) (signature : Bytes) : Option Bytes :=
  let value := Bytes.toNat signature
  if signature.length = key.width && value < key.modulus then
    some (Bytes.ofNat key.width (Modular.power key.modulus value key.exponent))
  else none

/-- The fixed padded form of a message. -/
def padded (hash : Hash) (width : Nat) (message : Bytes) : Bytes :=
  let content := hash.name ++ hash.digest message
  0x00 :: 0x01 :: (List.replicate (width - content.length - 3) 0xFF ++ 0x00 :: content)

/-- Whether a signature gives back the fixed padded form of a message. -/
def verifiesPadded (hash : Hash) (key : Key) (message signature : Bytes) : Bool :=
  key.isAdmissible hash && recovered? key signature == some (padded hash key.width message)

/-- The digests of a seed with a running number after it. -/
def mask (hash : Hash) (seed : Bytes) (length : Nat) : Bytes :=
  let count := (length + hash.size - 1) / hash.size
  ((List.range count).flatMap fun number => hash.digest (seed ++ Bytes.ofNat 4 number)).take length

/-- Whether a form is the salted one of a message, for so many bits. -/
def isSalted (hash : Hash) (bits : Nat) (message form : Bytes) : Bool :=
  let width := (bits + 7) / 8
  let size := hash.size
  let blockLength := width - size - 1
  let maskedBlock := form.take blockLength
  let check := (form.drop blockLength).take size
  let limit := 1 <<< (8 - (width * 8 - bits))
  let block := List.zipWith (fun left right => left ^^^ right) maskedBlock
    (mask hash check blockLength)
  let cleared :=
    match block with
    | [] => []
    | first :: rest => UInt8.ofNat (first.toNat % limit) :: rest
  let salt := cleared.drop (blockLength - size)
  form.length == width && 2 * size + 2 ≤ width && form.getLast? == some 0xBC &&
    (maskedBlock.headD 0).toNat < limit &&
    cleared.take (blockLength - size) == List.replicate (blockLength - size - 1) 0x00 ++ [0x01] &&
    hash.digest (List.replicate 8 0x00 ++ hash.digest message ++ salt) == check

/-- Whether a signature gives back a salted form of a message. The form has one bit less than the
modulus. -/
def verifiesSalted (hash : Hash) (key : Key) (message signature : Bytes) : Bool :=
  key.isAdmissible hash &&
    match recovered? key signature with
    | none => false
    | some form =>
      let bits := key.bits - 1
      if bits % 8 = 0 then
        match form with
        | 0x00 :: form => isSalted hash bits message form
        | _ => false
      else isSalted hash bits message form

end Rsa

end SignedPurchase
