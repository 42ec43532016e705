import SignedPurchase.Certificate.Signature
import SignedPurchase.Trust.Anchor

/-
**Certification paths.**

A path leads from a certificate over intermediate ones to the anchor, each issued by the next. It is
walked greedily: the anchor is tried before the intermediate certificates, and of these the first
that bears the name of the issuer is taken.

* `PathFault` lists the reasons for which a path is refused, `PathFault.message` words them;
* `checkUsable` and `checkIssuer` are what is asked of each certificate and of each issuer;
* `walk` goes on from a certificate that was checked, `verifyPath` starts.
-/

namespace SignedPurchase

/-- Why a path is refused. -/
inductive PathFault where
  | outsideValidity (certificate : Certificate) (time : CertificateTime)
  | notUnderstood (certificate : Certificate) (extension : Extension)
  | notAuthority (certificate : Certificate)
  | repeatedConstraints (certificate : Certificate)
  | tooManyAuthorities (certificate : Certificate) (allowed found : Nat)
  | wrongSignature (certificate issuer : Certificate)
  | noIssuer (certificate : Certificate)
  | tooLong (limit : Nat)
  deriving DecidableEq, Repr

/-- The message of a fault. -/
def PathFault.message : PathFault → String
  | .outsideValidity certificate time =>
    certificate.subject.text ++ " not valid at " ++ time.text ++ " (valid " ++
      certificate.notBefore.text ++ " to " ++ certificate.notAfter.text ++ ")"
  | .notUnderstood certificate extension =>
    certificate.subject.text ++ " carries unsupported critical extension " ++ extension.kind.text
  | .notAuthority certificate => certificate.subject.text ++ " is not a CA certificate"
  | .repeatedConstraints certificate =>
    certificate.subject.text ++ " has unreadable basic constraints"
  | .tooManyAuthorities certificate allowed found =>
    certificate.subject.text ++ " allows " ++ Json.integerText allowed ++
      " CA certificates below it, path has " ++ Json.integerText found
  | .wrongSignature certificate issuer =>
    "signature on " ++ certificate.subject.text ++ " does not verify under " ++ issuer.subject.text
  | .noIssuer certificate =>
    "no issuer for " ++ certificate.subject.text ++ " chains to the trust anchor"
  | .tooLong limit => "path exceeds " ++ Json.integerText limit ++ " certificates"

/-- A certificate can be used at a time within its validity, if all that must be understood is. -/
def checkUsable (certificate : Certificate) (time : CertificateTime) : Except PathFault Unit :=
  if certificate.isValidAt time then
    match certificate.obstacle? with
    | none => .ok ()
    | some extension => .error (.notUnderstood certificate extension)
  else .error (.outsideValidity certificate time)

/-- An issuer is an authority that allows so many authorities below it. -/
def checkAuthority (certificate : Certificate) (below : Nat) : Except PathFault Unit :=
  match certificate.standing with
  | .stated constraints =>
    if constraints.isAuthority then
      match constraints.pathLength with
      | some allowed =>
        if allowed < below then .error (.tooManyAuthorities certificate allowed below) else .ok ()
      | none => .ok ()
    else .error (.notAuthority certificate)
  | .silent => .error (.notAuthority certificate)
  | .repeated => .error (.repeatedConstraints certificate)

/-- An issuer can be used and is an authority. -/
def checkIssuer (certificate : Certificate) (time : CertificateTime) (below : Nat) :
    Except PathFault Unit :=
  match checkUsable certificate time with
  | .ok () => checkAuthority certificate below
  | .error fault => .error fault

/-- A certificate is signed with the key of its issuer. -/
def checkSignature (certificate issuer : Certificate) : Except PathFault Unit :=
  if certificate.isSignedBy issuer then .ok () else .error (.wrongSignature certificate issuer)

/-- One step of a path: the issuer signed, and may issue with so many authorities below it. -/
def checkStep (certificate issuer : Certificate) (time : CertificateTime) (below : Nat) :
    Except PathFault Unit :=
  match checkSignature certificate issuer with
  | .ok () => checkIssuer issuer time below
  | .error fault => .error fault

/-- The number of authorities below the issuer of an issuer. One that bears its issuer's name does
not count. -/
def belowNext (issuer : Certificate) (below : Nat) : Nat :=
  if issuer.isSelfIssued then below else below + 1

/-- Goes on from a certificate that can be used, with so many steps left and so many authorities
already below. The limit is what a message names. -/
def walk (intermediates : List Presented) (anchor : Presented) (time : CertificateTime)
    (limit : Nat) : (steps : Nat) → Presented → (below : Nat) → Except PathFault Unit
  | 0, _, _ => .error (.tooLong limit)
  | steps + 1, current, below =>
    if current.bytes = anchor.bytes then .ok ()
    else if current.certificate.namesIssuer anchor.certificate then
      checkStep current.certificate anchor.certificate time below
    else
      match intermediates.find? fun other => current.certificate.namesIssuer other.certificate with
      | none => .error (.noIssuer current.certificate)
      | some issuer =>
        match checkStep current.certificate issuer.certificate time below with
        | .ok () =>
          walk intermediates anchor time limit steps issuer (belowNext issuer.certificate below)
        | .error fault => .error fault

/-- The number of steps that a path may have. -/
def greatestSteps : Nat := 4

/-- A path with at most so many steps leads from a certificate to the anchor. -/
def verifyPathWithin (steps : Nat) (start : Presented) (intermediates : List Presented)
    (anchor : Presented) (time : CertificateTime) : Except PathFault Unit :=
  match checkUsable start.certificate time with
  | .ok () => walk intermediates anchor time steps steps start 0
  | .error fault => .error fault

/-- A path leads from a certificate to the anchor. -/
def verifyPath (start : Presented) (intermediates : List Presented) (anchor : Presented)
    (time : CertificateTime) : Except PathFault Unit :=
  verifyPathWithin greatestSteps start intermediates anchor time

end SignedPurchase
