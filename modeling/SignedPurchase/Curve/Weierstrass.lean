import SignedPurchase.Bytes
import SignedPurchase.Number.Modular

/-
**The curves with `y² = x³ - 3x + b`.**

* `Curve.p256` and `Curve.p384` are the two curves in use;
* `Curve.combination` adds multiples of the base point and of another point;
* `Curve.pointOfBytes?` reads a point with both coordinates, `Curve.bytesOfPoint` writes one;
* `Curve.pointsAt?` finds the two points with a given first coordinate.

Sums are computed with a common denominator, so that one inversion at the end suffices.
-/

namespace SignedPurchase

/-- A point of a curve other than the neutral one. -/
structure Point where
  x : Nat
  y : Nat
  deriving DecidableEq, Repr

/-- A curve over the remainders of a prime, with a base point of prime order. -/
structure Curve where
  /-- The number of bytes of a coordinate. -/
  width : Nat
  prime : Nat
  /-- The constant term of the equation. -/
  constant : Nat
  base : Point
  order : Nat
  deriving DecidableEq, Repr

namespace Curve

/-- The curve of 256 bits. -/
def p256 : Curve where
  width := 32
  prime := 0xffffffff00000001000000000000000000000000ffffffffffffffffffffffff
  constant := 0x5ac635d8aa3a93e7b3ebbd55769886bc651d06b0cc53b0f63bce3c3e27d2604b
  base :=
    ⟨0x6b17d1f2e12c4247f8bce6e563a440f277037d812deb33a0f4a13945d898c296,
      0x4fe342e2fe1a7f9b8ee7eb4a7c0f9e162bce33576b315ececbb6406837bf51f5⟩
  order := 0xffffffff00000000ffffffffffffffffbce6faada7179e84f3b9cac2fc632551

/-- The curve of 384 bits. -/
def p384 : Curve where
  width := 48
  prime := 0xfffffffffffffffffffffffffffffffffffffffffffffffffffffffffffffffeffffffff0000000000000000ffffffff
  constant := 0xb3312fa7e23ee7e4988e056be3f82d19181d9c6efe8141120314088f5013875ac656398d8a2ed19d2a85c8edd3ec2aef
  base :=
    ⟨0xaa87ca22be8b05378eb1c71ef320ad746e1d3b628ba79b9859f741e082542a385502f25dbf55296c3a545e3872760ab7,
      0x3617de4a96262c6f5d9e98bf9292dc29f8f41dbd289a147ce9da3113b5f0b8c00a60b1ce1d7e819d7a431d7c90ea0e5f⟩
  order := 0xffffffffffffffffffffffffffffffffffffffffffffffffc7634d81f4372ddf581a0db248b0a77aecec196accc52973

/-- The square of the second coordinate that belongs to the first. -/
def squareAt (curve : Curve) (x : Nat) : Nat :=
  Modular.difference curve.prime (x * x % curve.prime * x + curve.constant) (3 * x)

/-- Whether a pair is a point of the curve, in least remainders. -/
def contains (curve : Curve) (point : Point) : Bool :=
  point.x < curve.prime && point.y < curve.prime &&
    point.y * point.y % curve.prime == curve.squareAt point.x

/-- A point `(x / z², y / z³)`, or the neutral one when `z` is zero. -/
structure Weighted where
  x : Nat
  y : Nat
  z : Nat
  deriving DecidableEq, Repr

/-- The neutral point. -/
def neutral : Weighted := ⟨1, 1, 0⟩

/-- A point with denominator one. -/
def weighted (point : Point) : Weighted := ⟨point.x, point.y, 1⟩

/-- A point added to itself. -/
def double (curve : Curve) (point : Weighted) : Weighted :=
  let p := curve.prime
  if point.z = 0 || point.y = 0 then neutral
  else
    let zz := point.z * point.z % p
    let yy := point.y * point.y % p
    let middle := 4 * (point.x * yy % p) % p
    let slope := 3 * (Modular.difference p point.x zz * ((point.x + zz) % p) % p) % p
    let x := Modular.difference p (slope * slope) (2 * middle)
    ⟨x, Modular.difference p (slope * Modular.difference p middle x) (8 * (yy * yy % p)),
      2 * (point.y * point.z % p) % p⟩

/-- The sum of two points. -/
def add (curve : Curve) (left right : Weighted) : Weighted :=
  let p := curve.prime
  if left.z = 0 then right
  else if right.z = 0 then left
  else
    let zzLeft := left.z * left.z % p
    let zzRight := right.z * right.z % p
    let xLeft := left.x * zzRight % p
    let xRight := right.x * zzLeft % p
    let yLeft := left.y * (zzRight * right.z % p) % p
    let yRight := right.y * (zzLeft * left.z % p) % p
    let run := Modular.difference p xRight xLeft
    let rise := Modular.difference p yRight yLeft
    if run = 0 then (if rise = 0 then curve.double left else neutral)
    else
      let run2 := run * run % p
      let run3 := run2 * run % p
      let middle := xLeft * run2 % p
      let x := Modular.difference p (rise * rise) (run3 + 2 * middle)
      ⟨x, Modular.difference p (rise * Modular.difference p middle x) (yLeft * run3),
        left.z * (right.z * run % p) % p⟩

/-- A multiple of a point: doubled for every binary digit, and added for every digit one. -/
def multiply (curve : Curve) (scalar : Nat) (point : Weighted) : Weighted :=
  (Modular.binaryDigits scalar).foldl
    (fun sum digit =>
      let doubled := curve.double sum
      if digit then curve.add doubled point else doubled)
    neutral

/-- The point without denominators, unless it is the neutral one. -/
def normal? (curve : Curve) (point : Weighted) : Option Point :=
  if point.z % curve.prime = 0 then none
  else
    let shrink := Modular.inverse curve.prime point.z
    let shrink2 := shrink * shrink % curve.prime
    some ⟨point.x * shrink2 % curve.prime,
      point.y * (shrink2 * shrink % curve.prime) % curve.prime⟩

/-- A multiple of the base point plus a multiple of another point. -/
def combination (curve : Curve) (baseScalar scalar : Nat) (point : Point) : Option Point :=
  curve.normal? <|
    curve.add (curve.multiply baseScalar (weighted curve.base))
      (curve.multiply scalar (weighted point))

/-- A multiple of the base point. -/
def multipleOfBase (curve : Curve) (scalar : Nat) : Option Point :=
  curve.normal? (curve.multiply scalar (weighted curve.base))

/-- A point with both coordinates, after a mark. -/
def bytesOfPoint (curve : Curve) (point : Point) : Bytes :=
  0x04 :: (Bytes.ofNat curve.width point.x ++ Bytes.ofNat curve.width point.y)

/-- The point of a form with both coordinates. -/
def pointOfBytes? (curve : Curve) (bytes : Bytes) : Option Point :=
  match bytes with
  | 0x04 :: rest =>
    if rest.length = 2 * curve.width then
      let point : Point :=
        ⟨Bytes.toNat (rest.take curve.width), Bytes.toNat (rest.drop curve.width)⟩
      if curve.contains point then some point else none
    else none
  | _ => none

/-- The two points with a first coordinate, the one with the even second coordinate first. -/
def pointsAt? (curve : Curve) (x : Nat) : Option (Point × Point) :=
  if x < curve.prime then
    match Modular.squareRoot? curve.prime (curve.squareAt x) with
    | some root =>
      let other := Modular.difference curve.prime 0 root
      if root % 2 = 0 then some (⟨x, root⟩, ⟨x, other⟩) else some (⟨x, other⟩, ⟨x, root⟩)
    | none => none
  else none

end Curve

end SignedPurchase
