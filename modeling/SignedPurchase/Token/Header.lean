import SignedPurchase.Json.Shape.Read
import SignedPurchase.Token.Compact

/-
**Token headers.**

A header names the algorithm and carries the certificates that vouch for the key, the leaf first.
Members that are not known are passed over, and `null` is read as absence.

* `CompactToken.readHeader` gives the header of a token;
* `Header.checkAlgorithm` asks for the one algorithm in use.
-/

namespace SignedPurchase

open Json

/-- The header of a signed token. -/
structure Header where
  /-- The algorithm, empty when it is not named. -/
  algorithm : String
  keyId : Option String
  /-- The certificates in base64, the leaf first. -/
  certificates : List String
  deriving DecidableEq, Repr

/-- The one algorithm in use, as headers name it. -/
def algorithmName : String := "ES256"

namespace Header

/-- The members of a header in their order. -/
def members :=
  Members.withDefault "alg" (.orNull "" .text) "" <|
  Members.maybe "kid" .text <|
  Members.withDefault "x5c" (.orNull [] (.list .text)) [] .nil

/-- Headers are records. -/
def shape : Shape Header :=
  .via
    ⟨fun ⟨algorithm, keyId, certificates, _⟩ => ⟨algorithm, keyId, certificates⟩,
      fun header => (header.algorithm, header.keyId, header.certificates, ()),
      fun _ => rfl⟩
    (.record "TokenHeader" members)

/-- A header must name the one algorithm in use. -/
def checkAlgorithm (header : Header) : Outcome Unit :=
  if header.algorithm = algorithmName then .ok ()
  else .error (.unsupportedAlgorithm header.algorithm)

end Header

/-- The header of a token. -/
def CompactToken.readHeader (token : CompactToken) : Outcome Header :=
  match token.headerBytes? with
  | none => .error (.malformedHeader "invalid base64url")
  | some bytes =>
    match Header.shape.decode bytes with
    | .ok header => .ok header
    | .error fault => .error (.malformedHeader ("invalid JSON: " ++ fault.message))

end SignedPurchase
