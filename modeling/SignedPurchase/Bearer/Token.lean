import SignedPurchase.Bearer.Chance
import SignedPurchase.Credential
import SignedPurchase.Key.Private
import SignedPurchase.Signature.Es256
import SignedPurchase.Token.Header

/-
**Bearer tokens.**

A bearer token is a signed token that opens the store server to its bearer for one hour. It carries no
certificates, so that nobody can take it for a signed payload.

* `Credential.mint` makes one, at a second given by the caller;
* `BearerToken.isExpiredAt` tells whether its hour is over, which it is from the last second on;
* `BearerToken.diagnostic` shows a token without its text.
-/

namespace SignedPurchase

open Json

/-- A token that opens the store server to its bearer. Times are seconds since the start of 1970. -/
structure BearerToken where
  text : String
  issuedAt : Int
  expiresAt : Int
  deriving DecidableEq, Repr

namespace BearerToken

/-- The seconds for which a token is valid. -/
def lifetime : Int := 3600

/-- Whom every token is meant for. -/
def audience : String := "appstoreconnect-v1"

/-- Whether the time of a token is over. -/
def isExpiredAt (token : BearerToken) (now : Int) : Bool :=
  token.expiresAt ≤ now

/-- A token as diagnostics show it. -/
def diagnostic (token : BearerToken) : String :=
  "AuthToken \x7b bearer: \"<redacted>\", issued_at: " ++ integerText token.issuedAt ++
    ", expires_at: " ++ integerText token.expiresAt ++ " \x7d"

end BearerToken

namespace Credential

/-- The header of a bearer token. -/
def bearerHeader (credential : Credential) : Tree :=
  .object [("typ", .text "JWT"), ("alg", .text algorithmName), ("kid", .text credential.keyId)]

/-- What a bearer token says: who made it, when, until when and for whom it is valid, its own name,
and the app. -/
def bearerClaims (credential : Credential) (now : Int) (nonce : String) : Tree :=
  .object [("iss", .text credential.issuerId), ("iat", .number (.integer now)),
    ("exp", .number (.integer (now + BearerToken.lifetime))),
    ("aud", .text BearerToken.audience), ("nonce", .text nonce),
    ("bid", .text credential.bundleId)]

/-- A tree as a segment of a token. -/
def segmentOf (tree : Tree) : List Char :=
  Base64.symbols .urlSafe tree.write

/-- The compact token of a bearer token, signed with a scalar. -/
def bearerCompact (credential : Credential) (scalar : Nat) (now : Int) (chance : Chance) :
    CompactToken :=
  let bare : CompactToken :=
    ⟨segmentOf credential.bearerHeader, segmentOf (credential.bearerClaims now chance.nonce), []⟩
  { bare with
    signature := Base64.symbols .urlSafe (Es256.sign scalar chance.secret bare.signingInput) }

/-- A new bearer token. The private key must be usable. -/
def mint (credential : Credential) (now : Int) (chance : Chance) : Outcome BearerToken := do
  let key ← usablePrivateKey credential.privateKey
  return {
    text := (credential.bearerCompact key.scalar now chance).text
    issuedAt := now
    expiresAt := now + BearerToken.lifetime }

end Credential

end SignedPurchase
