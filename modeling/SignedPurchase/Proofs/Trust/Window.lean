import SignedPurchase.Proofs.Certificate.Time
import SignedPurchase.Proofs.Token.Writing
import SignedPurchase.Proofs.Trust.Vouching

/-
**The window in which a token is accepted.**

Of all that is asked of certificates, only whether they can be used depends on the time. Which issuers
the walk visits does not: names settle that. So what is accepted at two instants is accepted at every
instant between them, with the same key.

* `Certificate.IsUsableAt.between`: a certificate can be used without interruption;
* `Walk.between`: neither does a walk break off, and it visits the same issuers;
* `verifyHeader_between` and `accepted_between`: the same for headers and for the text of a token.
-/

namespace SignedPurchase

section Paths

variable {first middle last : CertificateTime}

/-! ### Certificates and steps -/

/-- A certificate that can be used at two times can be used at all times between. -/
theorem Certificate.IsUsableAt.between {certificate : Certificate}
    (early : certificate.IsUsableAt first) (late : certificate.IsUsableAt last)
    (begun : first.IsAtMost middle) (lasting : middle.IsAtMost last) :
    certificate.IsUsableAt middle :=
  ⟨early.begun.trans begun, lasting.trans late.lasting, early.understood⟩

/-- A step of a path that is allowed at two times is allowed at all times between. -/
theorem checkStep_between {certificate issuer : Certificate} {below : Nat}
    (early : checkStep certificate issuer first below = .ok ())
    (late : checkStep certificate issuer last below = .ok ())
    (begun : first.IsAtMost middle) (lasting : middle.IsAtMost last) :
    checkStep certificate issuer middle below = .ok () := by
  obtain ⟨signed, usable, admits⟩ := checkStep_eq_ok_iff.mp early
  obtain ⟨_, stillUsable, _⟩ := checkStep_eq_ok_iff.mp late
  exact checkStep_eq_ok_iff.mpr ⟨signed, usable.between stillUsable begun lasting, admits⟩

/-! ### Paths -/

variable {intermediates visited others : List Presented} {anchor current start : Presented}
  {below : Nat}

/-- **A walk that arrives at two times arrives at all times between**, by the same issuers. At each
certificate the names leave only one way to go on, so both walks take it. -/
theorem Walk.between (early : Walk intermediates anchor first current below visited)
    (late : Walk intermediates anchor last current below others)
    (begun : first.IsAtMost middle) (lasting : middle.IsAtMost last) :
    Walk intermediates anchor middle current below visited := by
  induction early generalizing others with
  | arrived same => exact .arrived same
  | anchored other named step =>
    cases late with
    | arrived same => exact absurd same other
    | anchored _ _ lateStep =>
      exact .anchored other named (checkStep_between step lateStep begun lasting)
    | onward _ unnamed _ _ _ =>
      rw [named] at unnamed
      cases unnamed
  | onward other unnamed found step _ ih =>
    cases late with
    | arrived same => exact absurd same other
    | anchored _ named _ =>
      rw [unnamed] at named
      cases named
    | onward _ _ lateFound lateStep lateRest =>
      rw [found] at lateFound
      cases lateFound
      exact .onward other unnamed found (checkStep_between step lateStep begun lasting)
        (ih lateRest)

/-- A path that is verified at two times is verified at all times between. -/
theorem verifyPath_between (early : verifyPath start intermediates anchor first = .ok ())
    (late : verifyPath start intermediates anchor last = .ok ())
    (begun : first.IsAtMost middle) (lasting : middle.IsAtMost last) :
    verifyPath start intermediates anchor middle = .ok () := by
  obtain ⟨usable, visited, walked, short⟩ := verifyPath_eq_ok_iff.mp early
  obtain ⟨stillUsable, _, stillWalked, _⟩ := verifyPath_eq_ok_iff.mp late
  exact verifyPath_eq_ok_iff.mpr
    ⟨usable.between stillUsable begun lasting, visited,
      walked.between stillWalked begun lasting, short⟩

end Paths

/-! ### Headers and tokens -/

section Instants

variable {anchor : TrustAnchor} {first middle last : Instant} {key lateKey : Point}

/-- The seconds of instants are in their order. -/
theorem Instant.seconds_mono (ordered : first.milliseconds ≤ last.milliseconds) :
    first.seconds ≤ last.seconds :=
  Int.ediv_le_ediv (by decide) ordered

/-- Certificates that are accepted at two instants are accepted at all instants between, with the one
key of the leaf. -/
theorem verifyCertificates_between {leaf intermediate : Presented} {root : Option Presented}
    (begun : first.milliseconds ≤ middle.milliseconds)
    (lasting : middle.milliseconds ≤ last.milliseconds)
    (early : verifyCertificates anchor leaf intermediate root first = .ok key)
    (late : verifyCertificates anchor leaf intermediate root last = .ok lateKey) :
    key = lateKey ∧ verifyCertificates anchor leaf intermediate root middle = .ok key := by
  obtain ⟨before, beforeTimed, rootEarly, leafEarly, keyed⟩ :=
    verifyCertificates_eq_ok_iff.mp early
  obtain ⟨after, afterTimed, rootLate, leafLate, lateKeyed⟩ := verifyCertificates_eq_ok_iff.mp late
  obtain ⟨time, timed, beforeTime, timeAfter⟩ :=
    CertificateTime.ofSeconds?_between (Instant.seconds_mono begun) (Instant.seconds_mono lasting)
      beforeTimed afterTimed
  have sameKey : key = lateKey := by
    rw [keyed] at lateKeyed
    exact Except.ok.inj lateKeyed
  refine ⟨sameKey, verifyCertificates_eq_ok_iff.mpr ⟨time, timed, ?_, ?_, keyed⟩⟩
  · intro carried member
    exact verifyPath_between (rootEarly carried member) (rootLate carried member) beforeTime
      timeAfter
  · exact verifyPath_between leafEarly leafLate beforeTime timeAfter

/-- An entry spells at most one certificate. -/
theorem Spells.unique : Relator.RightUnique Spells := by
  intro entry certificate other spelled spelledOther
  have same : some certificate.bytes = some other.bytes := spelled.symm.trans spelledOther
  exact Presented.eq_of_bytes (Option.some.inj same)

/-- Entries spell one leaf, one intermediate certificate, and one root or none. -/
theorem Spells.eq_of_forall₂ {entries : List String} {leaf leaf' intermediate intermediate' : Presented}
    {root root' : Option Presented}
    (spelled : List.Forall₂ Spells entries (leaf :: intermediate :: root.toList))
    (spelled' : List.Forall₂ Spells entries (leaf' :: intermediate' :: root'.toList)) :
    leaf = leaf' ∧ intermediate = intermediate' ∧ root = root' := by
  have same := Spells.unique.forall₂ spelled spelled'
  rw [List.cons.injEq, List.cons.injEq] at same
  obtain ⟨leaves, intermediates, roots⟩ := same
  exact ⟨leaves, intermediates, by rw [← Option.head?_toList (o := root), roots, Option.head?_toList]⟩

/-- A header that is accepted at two instants is accepted at all instants between, with the same
key. -/
theorem verifyHeader_between {header : Header} (begun : first.milliseconds ≤ middle.milliseconds)
    (lasting : middle.milliseconds ≤ last.milliseconds)
    (early : verifyHeader anchor header first = .ok key)
    (late : verifyHeader anchor header last = .ok lateKey) :
    key = lateKey ∧ verifyHeader anchor header middle = .ok key := by
  obtain ⟨leaf, intermediate, root, spelled, early⟩ := verifyHeader_eq_ok_iff.mp early
  obtain ⟨lateLeaf, lateIntermediate, lateRoot, lateSpelled, late⟩ :=
    verifyHeader_eq_ok_iff.mp late
  -- The entries do not depend on the time, so neither do the certificates that they spell.
  obtain ⟨rfl, rfl, rfl⟩ := Spells.eq_of_forall₂ spelled lateSpelled
  obtain ⟨sameKey, accepted⟩ := verifyCertificates_between begun lasting early late
  exact ⟨sameKey, verifyHeader_eq_ok_iff.mpr ⟨leaf, intermediate, root, spelled, accepted⟩⟩

/-- **The instants at which a token is accepted have no gaps.** When the certificates of a token are
accepted at two instants, they have the same key at both, and are accepted with it at every instant
between. This holds of every anchor and every text, so it holds where an instant falls on a bound of
validity, between two seconds, before 1970, or on the other side of 2049, and for bounds of either
form. -/
theorem accepted_between {text : String} (begun : first.milliseconds ≤ middle.milliseconds)
    (lasting : middle.milliseconds ≤ last.milliseconds)
    (early : verifyToken anchor text first = .ok key)
    (late : verifyToken anchor text last = .ok lateKey) :
    key = lateKey ∧ verifyToken anchor text middle = .ok key := by
  obtain ⟨token, header, parsed, read, early⟩ := verifyToken_eq_ok_iff.mp early
  obtain ⟨lateToken, lateHeader, lateParsed, lateRead, late⟩ := verifyToken_eq_ok_iff.mp late
  rw [parsed] at lateParsed
  cases lateParsed
  rw [read] at lateRead
  cases lateRead
  obtain ⟨sameKey, accepted⟩ := verifyHeader_between begun lasting early late
  exact ⟨sameKey, verifyToken_eq_ok_iff.mpr ⟨token, header, parsed, read, accepted⟩⟩

end Instants

/-! ### A token with a window of one day -/

namespace Lettered

/-- A token that carries the header and nothing else. -/
def token : CompactToken :=
  let written := Json.Tree.object [("alg", .text header.algorithm),
    ("x5c", .list (header.certificates.map .text))]
  ⟨Base64.symbols .urlSafe written.write, Base64.symbols .urlSafe [], Base64.symbols .urlSafe []⟩

/-- The second in which the next day begins. -/
def nextDay : CertificateTime := ⟨86400, 0, 0, false⟩

/-- The token has the header, and the anchor can be used to the end of the day. -/
theorem token_header :
    token.readHeader = .ok header ∧ checkUsable anchor.root.certificate nextDay = .ok () :=
  ⟨CompactToken.readHeader_written header.algorithm header.certificates [] [], by decide +kernel⟩

/-- The token is accepted whenever the anchor leads to itself. -/
theorem token_accepted {instant : Instant} {time : CertificateTime}
    (timed : CertificateTime.ofSeconds? instant.seconds = some time)
    (leads : LeadsTo anchor.root time anchor.root []) :
    verifyToken anchor token.text instant = .ok Curve.p256.base := by
  have accepted : verifyHeader anchor header instant = .ok Curve.p256.base :=
    verifyHeader_of_vouching
      { leaf := anchor.root
        intermediate := other
        root := some anchor.root
        time := time
        between := []
        only := .inl rfl
        spelled, timed, leads
        rootLeads := by
          intro carried member
          rw [← Option.some.inj member]
          exact leads
        elliptic, keyed } apart
  exact verifyToken_eq_ok_iff.mpr
    ⟨token, header, CompactToken.parse_text_symbols _ _ _, token_header.1, accepted⟩

/-- The first second of the day. -/
theorem token_accepted_first : verifyToken anchor token.text ⟨0⟩ = .ok Curve.p256.base :=
  token_accepted timed leads

/-- The second in which the next day begins still belongs to the window. -/
theorem token_accepted_last : verifyToken anchor token.text ⟨86400999⟩ = .ok Curve.p256.base := by
  have timed : CertificateTime.ofSeconds? (Instant.seconds ⟨86400999⟩) = some nextDay := by
    decide
  exact token_accepted timed (.itself rfl (checkUsable_eq_ok_iff.mp token_header.2))

end Lettered

/-- The token of one day is accepted at noon, since it is at both ends of the day. -/
theorem lettered_accepted_between :
    verifyToken Lettered.anchor Lettered.token.text ⟨0⟩ = .ok Curve.p256.base ∧
      verifyToken Lettered.anchor Lettered.token.text ⟨86400999⟩ = .ok Curve.p256.base ∧
      verifyToken Lettered.anchor Lettered.token.text ⟨43200500⟩ = .ok Curve.p256.base :=
  ⟨Lettered.token_accepted_first, Lettered.token_accepted_last,
    (accepted_between (by decide) (by decide) Lettered.token_accepted_first
      Lettered.token_accepted_last).2⟩

end SignedPurchase
