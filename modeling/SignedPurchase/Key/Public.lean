import SignedPurchase.Certificate.Basic
import SignedPurchase.Curve.Weierstrass
import SignedPurchase.Failure

/-
**Keys that sign payloads.**

* `pointOfForm?` reads a point of the curve of 256 bits in any of its forms: with both coordinates,
  or with the first and the parity of the second, or with the first alone, which stands for the
  point with the smaller second coordinate;
* `PublicKeyInfo.signingKey` gives the key of a certificate, which must be such a point.
-/

namespace SignedPurchase

/-- The point that stands for its first coordinate alone: the one with the smaller second. -/
def smallerPoint (points : Point × Point) : Point :=
  if points.1.y ≤ points.2.y then points.1 else points.2

/-- The point of any of its forms. -/
def pointOfForm? (bytes : Bytes) : Option Point :=
  match bytes with
  | [] => none
  | mark :: rest =>
    if mark = 0x04 then Curve.p256.pointOfBytes? bytes
    else if rest.length = Curve.p256.width then
      let points := Curve.p256.pointsAt? (Bytes.toNat rest)
      if mark = 0x02 then points.map (·.1)
      else if mark = 0x03 then points.map (·.2)
      else if mark = 0x05 then points.map smallerPoint
      else none
    else none

/-- The parameters that name the curve of 256 bits. -/
def isP256 (parameters : Bytes) : Bool :=
  Der.Strict.only? 0x06 parameters == some Oid.p256.bytes

/-- The point of a public key that is strictly written and names the curve of 256 bits. -/
def pointOfInfo? (bytes : Bytes) : Option Point := do
  let content ← Der.Strict.only? 0x30 bytes
  let (algorithm, rest) ← Der.Strict.content? 0x30 content
  let (kind, parameters) ← Der.Strict.content? 0x06 algorithm
  let bits ← Der.Strict.only? 0x03 rest
  if kind = Oid.ellipticKey.bytes && isP256 parameters then
    match bits with
    | 0x00 :: form => pointOfForm? form
    | _ => none
  else none

/-- The key of a certificate, when it is a point of the curve of 256 bits. -/
def PublicKeyInfo.signingKey (info : PublicKeyInfo) : Outcome Point :=
  if info.algorithm.kind ≠ Oid.ellipticKey then
    .error (.unsupportedKey info.algorithm.kind.text)
  else
    match pointOfInfo? info.raw with
    | some point => .ok point
    | none => .error (.unsupportedKey "EC key outside P-256")

end SignedPurchase
