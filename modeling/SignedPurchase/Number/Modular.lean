/-
**Arithmetic with remainders.**

* `Modular.power` raises to a power by squaring;
* `Modular.inverse` inverts modulo a prime;
* `Modular.difference` subtracts;
* `Modular.squareRoot?` finds a root modulo a prime that leaves three when divided by four, and
  checks that it squares back.
-/

namespace SignedPurchase

namespace Modular

/-- The binary digits of a number, the highest first. -/
def binaryDigits (value : Nat) : List Bool :=
  (List.range (Nat.log2 value + 1)).reverse.map fun position => value.testBit position

/-- The remainder of a power. -/
def power (modulus base exponent : Nat) : Nat :=
  (binaryDigits exponent).foldl
    (fun result digit =>
      let squared := result * result % modulus
      if digit then squared * base % modulus else squared)
    (1 % modulus)

/-- The number whose product with the given one leaves one, for a prime modulus. -/
def inverse (prime value : Nat) : Nat :=
  power prime (value % prime) (prime - 2)

/-- The remainder of a difference. -/
def difference (modulus left right : Nat) : Nat :=
  (left % modulus + (modulus - right % modulus)) % modulus

/-- A number whose square leaves the given remainder, for a prime modulus that leaves three when
divided by four. -/
def squareRoot? (prime value : Nat) : Option Nat :=
  let root := power prime value ((prime + 1) / 4)
  if root * root % prime = value % prime then some root else none

end Modular

end SignedPurchase
