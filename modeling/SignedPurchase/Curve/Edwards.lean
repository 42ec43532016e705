import SignedPurchase.Bytes
import SignedPurchase.Number.Modular

/-
**The curve with `-x² + y² = 1 + d x² y²` modulo `2²⁵⁵ - 19`.**

* `Edwards.decode?` reads a point from thirty-two bytes: the second coordinate, with the parity of
  the first in the highest bit;
* `Edwards.encode` writes one;
* `Edwards.combination` adds multiples of two points.
-/

namespace SignedPurchase

namespace Edwards

/-- The prime. -/
def prime : Nat :=
  0x7fffffffffffffffffffffffffffffffffffffffffffffffffffffffffffffed

/-- The order of the base point. -/
def order : Nat :=
  0x1000000000000000000000000000000014def9dea2f79cd65812631a5cf5d3ed

/-- What the highest bit of thirty-two bytes is worth. It tells whether the first coordinate is odd. -/
def highestBit : Nat := 1 <<< 255

/-- The coefficient of the equation. -/
def coefficient : Nat :=
  0x52036cee2b6ffe738cc740797779e89800700a4d4141d8ab75eb4dca135978a3

/-- A square root of minus one. -/
def rootOfMinusOne : Nat :=
  0x2b8324804fc1df0b2b4d00993dfbd7a72f431806ad2fe478c4ee1b274a0ea0b0

/-- The point `(x / z, y / z)`, with `t = x * y / z`. -/
structure Point where
  x : Nat
  y : Nat
  z : Nat
  t : Nat
  deriving DecidableEq, Repr

/-- The point with the given coordinates. -/
def ofCoordinates (x y : Nat) : Point := ⟨x, y, 1, x * y % prime⟩

/-- The neutral point. -/
def neutral : Point := ofCoordinates 0 1

/-- The base point. -/
def base : Point :=
  ofCoordinates 0x216936d3cd6e53fec0a4e231fdd6dc5c692cc7609525a7b2c9562d608f25d51a
    0x6666666666666666666666666666666666666666666666666666666666666658

/-- The sum of two points. -/
def add (left right : Point) : Point :=
  let a := Modular.difference prime left.y left.x * Modular.difference prime right.y right.x % prime
  let b := (left.y + left.x) * (right.y + right.x) % prime
  let c := 2 * (left.t * right.t % prime * coefficient % prime) % prime
  let d := 2 * (left.z * right.z % prime) % prime
  let e := Modular.difference prime b a
  let f := Modular.difference prime d c
  let g := (d + c) % prime
  let h := (b + a) % prime
  ⟨e * f % prime, g * h % prime, f * g % prime, e * h % prime⟩

/-- The point with the opposite first coordinate. -/
def negate (point : Point) : Point :=
  ⟨Modular.difference prime 0 point.x, point.y, point.z, Modular.difference prime 0 point.t⟩

/-- A multiple of a point. -/
def multiply (scalar : Nat) (point : Point) : Point :=
  (Modular.binaryDigits scalar).foldl
    (fun sum digit =>
      let doubled := add sum sum
      if digit then add doubled point else doubled)
    neutral

/-- A multiple of one point plus a multiple of another. -/
def combination (first : Nat) (left : Point) (second : Nat) (right : Point) : Point :=
  add (multiply first left) (multiply second right)

/-- The first coordinate that belongs to the second, of either sign. -/
def firstCoordinate? (y : Nat) : Option Nat :=
  let square := y * y % prime
  let ratio := Modular.difference prime square 1 *
    Modular.inverse prime (coefficient * square + 1) % prime
  let root := Modular.power prime ratio ((prime + 3) / 8)
  if root * root % prime = ratio then some root
  else
    let other := root * rootOfMinusOne % prime
    if other * other % prime = ratio then some other else none

/-- The point of thirty-two bytes. -/
def decode? (bytes : Bytes) : Option Point :=
  if bytes.length = 32 then
    let value := Bytes.toNatLittle bytes
    let y := value % highestBit % prime
    match firstCoordinate? y with
    | some root =>
      let x := if root % 2 = value / highestBit then root else Modular.difference prime 0 root
      some (ofCoordinates x y)
    | none => none
  else none

/-- The thirty-two bytes of a point. -/
def encode (point : Point) : Bytes :=
  let shrink := Modular.inverse prime point.z
  let x := point.x * shrink % prime
  let y := point.y * shrink % prime
  Bytes.ofNatLittle 32 (y + x % 2 * highestBit)

end Edwards

end SignedPurchase
