import SignedPurchase.Json.Number
import SignedPurchase.Text.Utf8

/-
**Failures.**

All that can go wrong, by cause. A message names the cause and, where it helps, the place; it never
holds a private key.

* `Failure.message` words a failure;
* `Failure.isRetryable` tells whether the same request may succeed later;
* `Failure.isTrustFailure` tells whether a signed payload must not be trusted.
-/

namespace SignedPurchase

open Json

/-- Why an operation gave no result. -/
inductive Failure where
  /-- A token that is not three segments. -/
  | malformedToken (segments : Nat)
  /-- A header segment that is no header. -/
  | malformedHeader (reason : String)
  /-- Too few certificates in a header. -/
  | missingCertificates (found : Nat)
  /-- A certificate of the header that cannot be read. -/
  | unreadableCertificate (index : Nat) (reason : String)
  /-- Certificates that do not lead to the trust anchor. -/
  | rejectedChain (reason : String)
  /-- A leaf certificate with a key of another kind. -/
  | unsupportedKey (found : String)
  /-- A header that names another algorithm. -/
  | unsupportedAlgorithm (name : String)
  /-- A signature that does not verify. -/
  | invalidSignature (reason : String)
  /-- A verified payload of another shape. -/
  | undecodedPayload (reason : String)
  /-- A private key that is not readable. -/
  | unreadableKey (reason : String)
  /-- A private key of another kind. -/
  | wrongKeyType (found : String)
  /-- A bearer token that could not be signed. -/
  | unsignedBearer (reason : String)
  /-- A configuration that cannot be used. -/
  | configuration (reason : String)
  /-- The server did not accept the bearer token. -/
  | unauthorized (reason : String)
  /-- The server knows no such resource. -/
  | notFound (resource : String)
  /-- Too many requests, with the milliseconds to wait. -/
  | rateLimited (wait : Option Nat)
  /-- Any other refusal of the server. -/
  | refused (status : Nat) (code : Option Int64) (reason : String)
  /-- No answer from the server. -/
  | network (reason : String)
  /-- An answer of another shape. -/
  | undecodedReply (reason : String)
  deriving DecidableEq, Repr

namespace Failure

/-- The text of an optional value, with the text of the value when there is one. -/
def optionalText : Option String → String
  | none => "None"
  | some text => "Some(" ++ text ++ ")"

/-- The digits of a fraction without the zeros at its end. -/
def withoutTrailingZeros (digits : List Char) : List Char :=
  (digits.reverse.dropWhile (· == '0')).reverse

/-- A span of milliseconds: in seconds when there is a whole one, else in milliseconds. -/
def spanText (milliseconds : Nat) : String :=
  if milliseconds = 0 then "0ns"
  else if milliseconds < 1000 then integerText milliseconds ++ "ms"
  else
    let rest := milliseconds % 1000
    let digits := withoutTrailingZeros
      [Nat.digitChar (rest / 100), Nat.digitChar (rest / 10 % 10), Nat.digitChar (rest % 10)]
    integerText (milliseconds / 1000) ++
      (if digits.isEmpty then "s" else String.ofList ('.' :: (digits ++ ['s'])))

/-- The message of a failure. -/
def message : Failure → String
  | .malformedToken segments =>
    "malformed token: expected 3 segments, found " ++ integerText segments
  | .malformedHeader reason => "malformed token header: " ++ reason
  | .missingCertificates found =>
    "certificate chain missing: x5c has " ++ integerText found ++ " entries, need at least 2"
  | .unreadableCertificate index reason =>
    "certificate at x5c[" ++ integerText index ++ "] could not be parsed: " ++ reason
  | .rejectedChain reason => "certificate chain verification failed: " ++ reason
  | .unsupportedKey found => "unsupported leaf key type: " ++ found
  | .unsupportedAlgorithm name => "unsupported signing algorithm: " ++ name
  | .invalidSignature reason => "signature verification failed: " ++ reason
  | .undecodedPayload reason => "payload decode failed: " ++ reason
  | .unreadableKey reason => "invalid private key PEM: " ++ reason
  | .wrongKeyType found => "invalid private key type: " ++ found
  | .unsignedBearer reason => "token signing failed: " ++ reason
  | .configuration reason => "configuration error: " ++ reason
  | .unauthorized reason => "unauthorized: " ++ reason
  | .notFound resource => "not found: " ++ resource
  | .rateLimited wait => "rate limited: retry after " ++ optionalText (wait.map spanText)
  | .refused status code reason =>
    "api error: HTTP " ++ integerText status ++ " (code " ++
      optionalText (code.map fun value => integerText value.toInt) ++ "): " ++ reason
  | .network reason => "network error: " ++ reason
  | .undecodedReply reason => "invalid response: " ++ reason

/-- Whether the same request may succeed later. -/
def isRetryable : Failure → Bool
  | .rateLimited _ => true
  | .network _ => true
  | _ => false

/-- Whether the failure means that a signed payload must not be trusted. -/
def isTrustFailure : Failure → Bool
  | .malformedToken _ => true
  | .malformedHeader _ => true
  | .missingCertificates _ => true
  | .unreadableCertificate _ _ => true
  | .rejectedChain _ => true
  | .unsupportedKey _ => true
  | .unsupportedAlgorithm _ => true
  | .invalidSignature _ => true
  | _ => false

end Failure

/-- What an operation gives: a result or a failure. -/
abbrev Outcome (α : Type) := Except Failure α

end SignedPurchase
