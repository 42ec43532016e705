import Mathlib.Data.List.Chain
import SignedPurchase.Trust.Path

/-
**What a certification path is.**

A path is a list of certificates, the one in question first and the anchor last. It is defined here by
what must hold of its certificates, without any walk; the checks of a single certificate and of a
single step are then exactly the parts of that definition.

* `CertificationPath` says when a list of certificates is a path at a time;
* `LeadsTo` says when a certificate leads to an anchor over the certificates in between;
* `checkUsable_eq_ok_iff`, `checkAuthority_eq_ok_iff` and `checkStep_eq_ok_iff` say what the checks
  establish.
-/

namespace SignedPurchase

/-! ### Times -/

/-- A time is not after another: its instant is not, and at the same instant a long form is not
followed by a short one. -/
structure CertificateTime.IsAtMost (left right : CertificateTime) : Prop where
  instant : left.instant ≤ right.instant
  form : left.instant = right.instant → left.isLong = true → right.isLong = true

/-- What the comparison of times establishes. -/
theorem CertificateTime.atMost_iff {left right : CertificateTime} :
    left.atMost right = true ↔ left.IsAtMost right := by
  rw [atMost, Bool.or_eq_true, decide_eq_true_eq, Bool.and_eq_true, beq_iff_eq, Bool.or_eq_true,
    Bool.not_eq_true']
  refine ⟨?_, ?_⟩
  · rintro (before | ⟨same, form⟩)
    · exact ⟨Int.le_of_lt before, fun same => absurd same (Int.ne_of_lt before)⟩
    · refine ⟨Int.le_of_eq same, fun _ long => ?_⟩
      rcases form with short | long
      · rw [long] at short
        cases short
      · exact long
  · rintro ⟨instant, form⟩
    rcases Int.lt_or_eq_of_le instant with before | same
    · exact .inl before
    · refine .inr ⟨same, ?_⟩
      cases long : left.isLong with
      | false => exact .inl rfl
      | true => exact .inr (form same long)

/-- The time of a count of seconds is at that count. -/
theorem CertificateTime.instant_of_ofSeconds? {seconds : Int} {time : CertificateTime}
    (found : CertificateTime.ofSeconds? seconds = some time) : time.instant = seconds * 1000 := by
  rw [ofSeconds?] at found
  split at found
  · cases found
    exact Int.add_zero _
  · cases found

/-! ### Single certificates -/

namespace Certificate

/-- A certificate can be used: the time is within its validity, and every extension that must be
understood is. -/
structure IsUsableAt (certificate : Certificate) (time : CertificateTime) : Prop where
  begun : certificate.notBefore.IsAtMost time
  lasting : time.IsAtMost certificate.notAfter
  understood : ∀ extension ∈ certificate.extensions,
    extension.critical = true → extension.isKnown = true

/-- Whether a certificate says once that its subject is an authority. -/
def isAuthority (certificate : Certificate) : Bool :=
  match certificate.standing with
  | .stated constraints => constraints.isAuthority
  | _ => false

/-- The number of authorities that a certificate allows below it, when that is limited. -/
def pathLimit? (certificate : Certificate) : Option Nat :=
  match certificate.standing with
  | .stated constraints => constraints.pathLength
  | _ => none

/-- Whether a certificate counts against the limits above it: an authority that does not bear the name
of its own issuer. -/
def isCounted (certificate : Certificate) : Bool :=
  certificate.isAuthority && !certificate.isSelfIssued

/-- An issuer is an authority that allows so many authorities below it. -/
structure Admits (issuer : Certificate) (below : Nat) : Prop where
  authority : issuer.isAuthority = true
  limit : ∀ allowed, issuer.pathLimit? = some allowed → below ≤ allowed

/-- A certificate was issued by another: it names the other's subject as its issuer, and its signature
verifies under the other's key. -/
structure IsIssuedBy (certificate issuer : Certificate) : Prop where
  named : certificate.issuer.raw = issuer.subject.raw
  signed : certificate.isSignedBy issuer = true

end Certificate

/-! ### Paths -/

/-- A list of certificates, the one in question first, is a path at a time: each is issued by the next,
each can be used, and each but the first is an authority that allows those counted between the first
and itself. -/
structure CertificationPath (time : CertificateTime) (path : List Certificate) : Prop where
  linked : path.IsChain Certificate.IsIssuedBy
  usable : ∀ certificate ∈ path, certificate.IsUsableAt time
  admitted : ∀ first between issuer above, path = first :: (between ++ issuer :: above) →
    issuer.Admits (between.countP Certificate.isCounted)

/-- A certificate leads to an anchor over the certificates in between: it is the anchor itself, or the
three parts make up a path. -/
inductive LeadsTo (anchor : Presented) (time : CertificateTime) (start : Presented) :
    (between : List Presented) → Prop where
  | itself (same : start.bytes = anchor.bytes) (usable : start.certificate.IsUsableAt time) :
    LeadsTo anchor time start []
  | issued {between : List Presented}
    (path : CertificationPath time
      (start.certificate :: (between.map (·.certificate) ++ [anchor.certificate]))) :
    LeadsTo anchor time start between

/-- The same bytes are the same certificate. -/
theorem Presented.eq_of_bytes {first second : Presented} (same : first.bytes = second.bytes) :
    first = second := by
  rcases first with ⟨bytes, certificate, read⟩
  rcases second with ⟨_, other, readOther⟩
  cases same
  have found : some certificate = some other := read.symm.trans readOther
  cases found
  rfl

/-! ### The checks -/

variable {certificate issuer : Certificate} {time : CertificateTime} {below : Nat}

theorem Certificate.namesIssuer_iff :
    certificate.namesIssuer issuer = true ↔ certificate.issuer.raw = issuer.subject.raw :=
  decide_eq_true_iff

theorem Certificate.isValidAt_iff :
    certificate.isValidAt time = true ↔
      certificate.notBefore.IsAtMost time ∧ time.IsAtMost certificate.notAfter := by
  rw [isValidAt, Bool.and_eq_true, CertificateTime.atMost_iff, CertificateTime.atMost_iff]

/-- No extension stands in the way when all that must be understood are. -/
theorem Certificate.obstacle?_eq_none_iff :
    certificate.obstacle? = none ↔ ∀ extension ∈ certificate.extensions,
      extension.critical = true → extension.isKnown = true := by
  rw [obstacle?, List.find?_eq_none]
  simp only [Bool.and_eq_true, Bool.not_eq_true', not_and, Bool.not_eq_false]

/-- What the check of a single certificate establishes. -/
theorem checkUsable_eq_ok_iff :
    checkUsable certificate time = .ok () ↔ certificate.IsUsableAt time := by
  unfold checkUsable
  split
  · rename_i valid
    obtain ⟨begun, lasting⟩ := Certificate.isValidAt_iff.mp valid
    split
    · rename_i clear
      refine ⟨?_, ?_⟩
      · intro _
        exact ⟨begun, lasting, Certificate.obstacle?_eq_none_iff.mp clear⟩
      · intro _
        rfl
    · rename_i extension obstructed
      refine ⟨?_, ?_⟩
      · intro passed
        cases passed
      · intro usable
        rw [Certificate.obstacle?_eq_none_iff.mpr usable.understood] at obstructed
        cases obstructed
  · rename_i outside
    refine ⟨?_, ?_⟩
    · intro passed
      cases passed
    · intro usable
      exact absurd (Certificate.isValidAt_iff.mpr ⟨usable.begun, usable.lasting⟩) outside

/-- What the check of an authority establishes. -/
theorem checkAuthority_eq_ok_iff :
    checkAuthority certificate below = .ok () ↔ certificate.Admits below := by
  unfold checkAuthority
  refine ⟨?_, ?_⟩
  · intro passed
    split at passed
    · rename_i constraints stated
      split at passed
      · rename_i authority
        refine ⟨by rw [Certificate.isAuthority, stated]; exact authority, ?_⟩
        intro allowed limited
        rw [Certificate.pathLimit?, stated] at limited
        rw [show constraints.pathLength = some allowed from limited] at passed
        by_cases exceeded : allowed < below
        · simp only [if_pos exceeded, reduceCtorEq] at passed
        · exact Nat.le_of_not_lt exceeded
      · cases passed
    · cases passed
    · cases passed
  · rintro ⟨authority, limit⟩
    rw [Certificate.isAuthority] at authority
    split at authority
    · rename_i constraints stated
      rw [Certificate.pathLimit?, stated] at limit
      rw [stated]
      simp only [if_pos authority]
      split
      · rename_i allowed limited
        rw [if_neg (Nat.not_lt.mpr (limit allowed limited))]
      · rfl
    · cases authority

/-- What the check of a step establishes. -/
theorem checkStep_eq_ok_iff :
    checkStep certificate issuer time below = .ok () ↔
      certificate.isSignedBy issuer = true ∧ issuer.IsUsableAt time ∧ issuer.Admits below := by
  rw [← checkUsable_eq_ok_iff, ← checkAuthority_eq_ok_iff, checkStep, checkSignature, checkIssuer]
  cases certificate.isSignedBy issuer with
  | false => simp only [Bool.false_eq_true, if_false, reduceCtorEq, false_and]
  | true =>
    cases checkUsable issuer time with
    | error fault => simp only [if_true, reduceCtorEq, false_and, and_false]
    | ok done => simp only [if_true, true_and]

end SignedPurchase
