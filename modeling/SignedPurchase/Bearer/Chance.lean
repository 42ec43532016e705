import SignedPurchase.Curve.Weierstrass
import SignedPurchase.Text.Hex

/-
**What chance adds to a bearer token.**

No two bearer tokens are alike, since each has a name and a secret number of its own. Both are drawn
outside this library.

* `Chance.ofBytes` makes them from random bytes.
-/

namespace SignedPurchase

/-- What chance adds to a bearer token. -/
structure Chance where
  /-- A name that is used only once. -/
  nonce : String
  /-- A secret number that is used only once. -/
  secret : Nat
  deriving DecidableEq, Repr

namespace Chance

/-- How many bytes a name is made from. -/
def nonceWidth : Nat := 16

/-- The bytes of a random name: four bits tell its version, two its variant. -/
def marked (bytes : Bytes) : Bytes :=
  bytes.mapIdx fun index byte =>
    if index = 6 then byte % 0x10 + 0x40
    else if index = 8 then byte % 0x40 + 0x80
    else byte

/-- The text of a name: its digits in five groups. -/
def nonceText (bytes : Bytes) : String :=
  let group (start width : Nat) : String := Hex.encode ((bytes.drop start).take width)
  "-".intercalate [group 0 4, group 4 2, group 6 2, group 8 2, group 10 6]

/-- The secret number of random bytes, between one and the order of the base point. -/
def secretOf (bytes : Bytes) : Nat :=
  Bytes.toNat bytes % (Curve.p256.order - 1) + 1

/-- The name from the first bytes, the secret number from the others. -/
def ofBytes (bytes : Bytes) : Chance where
  nonce := nonceText (marked (bytes.take nonceWidth))
  secret := secretOf (bytes.drop nonceWidth)

end Chance

end SignedPurchase
