import SignedPurchase.Curve.Weierstrass

/-
**Signatures by a pair of scalars.**

* `Ecdsa.sign` makes a pair with a key, `Ecdsa.verifies` checks one against a digest and a point;
* `Ecdsa.Pair.bytes` writes the fixed form, two scalars of the width of the curve, and
  `Ecdsa.Pair.ofBytes?` reads it.

Both scalars must lie between one and the order of the base point. The larger of the two second
scalars that verify is accepted like the smaller.
-/

namespace SignedPurchase

namespace Ecdsa

/-- The two scalars of a signature. -/
structure Pair where
  r : Nat
  s : Nat
  deriving DecidableEq, Repr

/-- Whether both scalars lie between one and the order of the base point. -/
def Pair.inRange (pair : Pair) (curve : Curve) : Bool :=
  0 < pair.r && pair.r < curve.order && 0 < pair.s && pair.s < curve.order

/-- The pair of the fixed form. -/
def Pair.ofBytes? (curve : Curve) (bytes : Bytes) : Option Pair :=
  if bytes.length = 2 * curve.width then
    let pair : Pair := ⟨Bytes.toNat (bytes.take curve.width), Bytes.toNat (bytes.drop curve.width)⟩
    if pair.inRange curve then some pair else none
  else none

/-- The fixed form of a pair. -/
def Pair.bytes (curve : Curve) (pair : Pair) : Bytes :=
  Bytes.ofNat curve.width pair.r ++ Bytes.ofNat curve.width pair.s

/-- The number that a digest stands for. Only as many bytes of it count as a scalar has. -/
def digestNumber (curve : Curve) (digest : Bytes) : Nat :=
  Bytes.toNat (digest.take curve.width)

/-- The pair that a key makes for a digest with the help of a secret number, which is to be used only
once and must lie between one and the order of the base point. -/
def sign (curve : Curve) (key secret : Nat) (digest : Bytes) : Pair :=
  let r := ((curve.multipleOfBase secret).map (·.x)).getD 0 % curve.order
  let sum := digestNumber curve digest + r * key
  ⟨r, Modular.inverse curve.order secret * (sum % curve.order) % curve.order⟩

/-- Whether a pair signs a digest under the key of a point. -/
def verifies (curve : Curve) (point : Point) (digest : Bytes) (pair : Pair) : Bool :=
  if pair.inRange curve then
    let value := digestNumber curve digest
    let inverse := Modular.inverse curve.order pair.s
    let sum := curve.combination (value * inverse % curve.order) (pair.r * inverse % curve.order)
      point
    match sum with
    | some point => point.x % curve.order == pair.r
    | none => false
  else false

end Ecdsa

end SignedPurchase
