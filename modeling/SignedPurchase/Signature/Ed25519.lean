import SignedPurchase.Curve.Edwards
import SignedPurchase.Digest.Sha2

/-
**Signatures on the Edwards curve.**

* `Ed25519.verifies` checks a signature of sixty-four bytes: an encoded point and a scalar below the
  order of the base point. The point is computed from key, message and scalar and must have exactly
  the encoding that the signature gives.
-/

namespace SignedPurchase

namespace Ed25519

/-- Whether the signature belongs to the message under the key. -/
def verifies (key message signature : Bytes) : Bool :=
  if signature.length = 64 then
    let commitment := signature.take 32
    let scalar := Bytes.toNatLittle (signature.drop 32)
    match Edwards.decode? key with
    | some point =>
      let challenge := Bytes.toNatLittle (Digest.sha512 (commitment ++ key ++ message)) % Edwards.order
      scalar < Edwards.order &&
        Edwards.encode (Edwards.combination scalar Edwards.base challenge (Edwards.negate point))
          == commitment
    | none => false
  else false

end Ed25519

end SignedPurchase
