import SignedPurchase.Key.Public
import SignedPurchase.Instant
import SignedPurchase.Token.Header
import SignedPurchase.Trust.Path

/-
**The certificates of a token.**

A header carries the certificates that vouch for the key of a token: the leaf, an intermediate one,
and as a rule a root. The root is never trusted of itself: it must lead to the anchor like the leaf.
What comes after it is not looked at.

* `verifyHeader` gives the leaf's key when all leads to the anchor at an instant;
* `verifyToken` does so for the text of a token.
-/

namespace SignedPurchase

/-- How many certificates a header must carry. -/
def leastCertificates : Nat := 2

/-- How many certificates of a header count. -/
def countedCertificates : Nat := 3

/-- The certificate at a place in a header. -/
def readCertificate (index : Nat) (entry : String) : Outcome Presented :=
  match Base64.decode? .standard .required entry.toList with
  | none => .error (.unreadableCertificate index "invalid base64")
  | some bytes =>
    match Presented.ofBytes? bytes with
    | none => .error (.unreadableCertificate index "invalid certificate")
    | some certificate => .ok certificate

/-- The certificates from a place on. -/
def readCertificates : (index : Nat) → List String → Outcome (List Presented)
  | _, [] => .ok []
  | index, entry :: rest =>
    match readCertificate index entry with
    | .error failure => .error failure
    | .ok certificate =>
      match readCertificates (index + 1) rest with
      | .error failure => .error failure
      | .ok others => .ok (certificate :: others)

/-- The time at which certificates are checked. -/
def checkTime (instant : Instant) : Outcome CertificateTime :=
  match CertificateTime.ofSeconds? instant.seconds with
  | some time => .ok time
  | none => .error (.rejectedChain "evaluation time out of range")

/-- A path that must lead to the anchor; the part names it in messages. -/
def requirePath (part : String) (start : Presented) (intermediates : List Presented)
    (anchor : TrustAnchor) (time : CertificateTime) : Outcome Unit :=
  match verifyPath start intermediates anchor.root time with
  | .ok () => .ok ()
  | .error fault => .error (.rejectedChain (part ++ ": " ++ fault.message))

/-- A root that a header carries must lead to the anchor without help. -/
def requireRoot (root : Option Presented) (anchor : TrustAnchor) (time : CertificateTime) :
    Outcome Unit :=
  match root with
  | none => .ok ()
  | some root => requirePath "root" root [] anchor time

/-- Checks the root, then the leaf by way of the intermediate certificate, and gives the leaf's
key. -/
def verifyCertificates (anchor : TrustAnchor) (leaf intermediate : Presented)
    (root : Option Presented) (instant : Instant) : Outcome Point := do
  let time ← checkTime instant
  requireRoot root anchor time
  requirePath "leaf" leaf [intermediate] anchor time
  leaf.certificate.publicKey.signingKey

/-- The key of the leaf of a header, when its certificates lead to the anchor at an instant. -/
def verifyHeader (anchor : TrustAnchor) (header : Header) (instant : Instant) : Outcome Point :=
  if header.certificates.length < leastCertificates then
    .error (.missingCertificates header.certificates.length)
  else
    match readCertificates 0 (header.certificates.take countedCertificates) with
    | .error failure => .error failure
    | .ok (leaf :: intermediate :: rest) =>
      verifyCertificates anchor leaf intermediate rest.head? instant
    | .ok _ => .error (.missingCertificates 0)

/-- The key of the leaf of a token, when its certificates lead to the anchor at an instant. -/
def verifyToken (anchor : TrustAnchor) (text : String) (instant : Instant) : Outcome Point := do
  let token ← CompactToken.parse text
  let header ← token.readHeader
  verifyHeader anchor header instant

end SignedPurchase
