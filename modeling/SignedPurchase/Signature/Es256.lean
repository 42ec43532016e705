import SignedPurchase.Digest.Sha2
import SignedPurchase.Signature.Ecdsa
import SignedPurchase.Text.Utf8

/-
**The signatures of tokens.**

The one algorithm in use signs the digest of two hundred and fifty-six bits of a text, on the curve of
the same size.

* `Es256.sign` makes a signature, `Es256.verifies` checks one;
* `Es256.pairOf?` reads a signature of sixty-four bytes.
-/

namespace SignedPurchase

namespace Es256

/-- The pair of sixty-four bytes, when both of its scalars are in range. -/
def pairOf? (bytes : Bytes) : Option Ecdsa.Pair :=
  Ecdsa.Pair.ofBytes? .p256 bytes

/-- Whether a pair signs a text under a key. -/
def verifies (key : Point) (text : String) (pair : Ecdsa.Pair) : Bool :=
  Ecdsa.verifies .p256 key (Digest.sha256 (Utf8.encode text)) pair

/-- The bytes of the signature of a text, made with the help of a secret number. -/
def sign (key secret : Nat) (text : String) : Bytes :=
  (Ecdsa.sign .p256 key secret (Digest.sha256 (Utf8.encode text))).bytes .p256

end Es256

end SignedPurchase
