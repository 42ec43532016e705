import SignedPurchase.Proofs.Trust.Window

/-
**Which certificates are looked at.**

The leaf, a root that is carried, and the anchor are looked at in every header that is accepted. The
intermediate certificate is looked at only when the leaf needs one: the walk ends before it when the
leaf is the anchor or names it as its issuer. Then any certificate may stand in that place, one that is
out of its time and has issued nothing included.

* `Presented.Adjoins` says when a certificate needs no other one before the anchor;
* `verifyPath_eq_of_adjoins`: from such a certificate the path does not depend on others;
* `TrustAnchor.AllInForce` is what would hold if all certificates were looked at;
* `positions_checked`: all of it holds when the leaf needs the intermediate certificate, and the rest
  of it otherwise;
* `Lettered.lapsed_passed`: an intermediate certificate that is out of its time.
-/

namespace SignedPurchase

/-! ### Leaves beside the anchor -/

/-- A certificate needs no other one before the anchor: it is the anchor, or names it as its issuer. -/
def Presented.Adjoins (start anchor : Presented) : Prop :=
  start.bytes = anchor.bytes ∨ start.certificate.issuer.raw = anchor.certificate.subject.raw

section Paths

variable {start anchor intermediate : Presented} {time : CertificateTime}

/-- **From a certificate beside the anchor the path does not depend on others.** -/
theorem verifyPath_eq_of_adjoins (adjoins : start.Adjoins anchor) (time : CertificateTime)
    (intermediates others : List Presented) :
    verifyPath start intermediates anchor time = verifyPath start others anchor time := by
  have stops : walk intermediates anchor time greatestSteps greatestSteps start 0 =
      walk others anchor time greatestSteps greatestSteps start 0 := by
    show walk intermediates anchor time greatestSteps (3 + 1) start 0 =
      walk others anchor time greatestSteps (3 + 1) start 0
    rw [walk, walk]
    rcases adjoins with same | named
    · rw [if_pos same, if_pos same]
    · rw [if_pos (Certificate.namesIssuer_iff.mpr named),
        if_pos (Certificate.namesIssuer_iff.mpr named)]
  rw [verifyPath, verifyPath, verifyPathWithin, verifyPathWithin, stops]

/-- Every issuer of a path can be used, and so can its start. -/
theorem LeadsTo.isUsableAt {between : List Presented} (leads : LeadsTo anchor time start between) :
    ∀ certificate ∈ start.certificate :: (between.map (·.certificate) ++ [anchor.certificate]),
      certificate.IsUsableAt time := by
  cases leads with
  | itself same usable =>
    intro certificate member
    rw [← Presented.eq_of_bytes same, List.map_nil, List.nil_append, List.mem_pair, or_self]
      at member
    rw [member]
    exact usable
  | issued path => exact path.usable

/-- The anchor at the end of a path can be used. -/
theorem LeadsTo.anchor_isUsableAt {between : List Presented}
    (leads : LeadsTo anchor time start between) : anchor.certificate.IsUsableAt time :=
  leads.isUsableAt _ (List.mem_cons_of_mem _ (List.mem_append_right _ List.mem_cons_self))

/-- **A certificate that is not beside the anchor** is issued by the one that may stand between, and
that one can be used. -/
theorem issued_of_not_adjoins (verified : verifyPath start [intermediate] anchor time = .ok ())
    (apart : ¬ start.Adjoins anchor) :
    start.certificate.IsIssuedBy intermediate.certificate ∧
      intermediate.certificate.IsUsableAt time := by
  obtain ⟨_, visited, walked, _⟩ := verifyPath_eq_ok_iff.mp verified
  cases walked with
  | arrived same => exact absurd (.inl same) apart
  | anchored _ named _ => exact absurd (.inr (Certificate.namesIssuer_iff.mp named)) apart
  | onward _ _ found step _ =>
    obtain rfl := List.mem_singleton.mp (List.mem_of_find?_eq_some found)
    obtain ⟨_, usable, _⟩ := checkStep_eq_ok_iff.mp step
    exact ⟨Walk.isIssuedBy_of_step (Walk.named_of_found found) step, usable⟩

end Paths

/-! ### Headers and tokens -/

/-- All certificates of a header can be used, and so can the anchor, and the leaf was issued by the
certificate after it. -/
structure TrustAnchor.AllInForce (anchor : TrustAnchor) (leaf intermediate : Presented)
    (root : Option Presented) (time : CertificateTime) : Prop where
  leafUsable : leaf.certificate.IsUsableAt time
  intermediateUsable : intermediate.certificate.IsUsableAt time
  rootUsable : ∀ carried ∈ root, carried.certificate.IsUsableAt time
  anchorUsable : anchor.root.certificate.IsUsableAt time
  issued : leaf.certificate.IsIssuedBy intermediate.certificate

section Positions

variable {anchor : TrustAnchor} {instant : Instant} {key : Point} {leaf intermediate : Presented}
  {root : Option Presented}

/-- For a leaf beside the anchor the intermediate certificate does not matter. -/
theorem verifyCertificates_eq_of_adjoins (adjoins : leaf.Adjoins anchor.root)
    (intermediate other : Presented) (root : Option Presented) (instant : Instant) :
    verifyCertificates anchor leaf intermediate root instant =
      verifyCertificates anchor leaf other root instant := by
  simp only [verifyCertificates, requirePath,
    verifyPath_eq_of_adjoins adjoins _ [intermediate] [other]]

/-- **Which certificates are looked at.** When a token is accepted, its leaf, a root that it carries and
the anchor can all be used at that time. If the leaf is neither the anchor nor names it as its issuer,
the intermediate certificate can be used too, and has issued the leaf. If it is or does, the
intermediate certificate is not looked at: every token with the same leaf and the same root is accepted
with the same key, whatever certificate it carries between them. -/
theorem positions_checked {text : String} (accepted : verifyToken anchor text instant = .ok key) :
    ∃ token header leaf intermediate root time,
      CompactToken.parse text = .ok token ∧ token.readHeader = .ok header ∧
      List.Forall₂ Spells (header.certificates.take 3) (leaf :: intermediate :: root.toList) ∧
      CertificateTime.ofSeconds? instant.seconds = some time ∧
      leaf.certificate.IsUsableAt time ∧ (∀ carried ∈ root, carried.certificate.IsUsableAt time) ∧
      anchor.root.certificate.IsUsableAt time ∧
      (¬ leaf.Adjoins anchor.root → anchor.AllInForce leaf intermediate root time) ∧
      (leaf.Adjoins anchor.root → ∀ other text' token' header',
        CompactToken.parse text' = .ok token' → token'.readHeader = .ok header' →
        List.Forall₂ Spells (header'.certificates.take 3) (leaf :: other :: root.toList) →
        verifyToken anchor text' instant = .ok key) := by
  obtain ⟨token, header, parsed, read, accepted⟩ := verifyToken_eq_ok_iff.mp accepted
  obtain ⟨leaf, intermediate, root, spelled, verified⟩ := verifyHeader_eq_ok_iff.mp accepted
  obtain ⟨time, timed, rootPath, leafPath, _⟩ := verifyCertificates_eq_ok_iff.mp verified
  obtain ⟨leafUsable, _⟩ := verifyPath_eq_ok_iff.mp leafPath
  have rootUsable : ∀ carried ∈ root, carried.certificate.IsUsableAt time := fun carried member =>
    (verifyPath_eq_ok_iff.mp (rootPath carried member)).1
  obtain ⟨_, _, _, leads⟩ := leadsTo_of_verifyPath leafPath
  have anchorUsable := leads.anchor_isUsableAt
  refine ⟨token, header, leaf, intermediate, root, time, parsed, read, spelled, timed, leafUsable,
    rootUsable, anchorUsable, ?_, ?_⟩
  · intro apart
    obtain ⟨issued, intermediateUsable⟩ := issued_of_not_adjoins leafPath apart
    exact ⟨leafUsable, intermediateUsable, rootUsable, anchorUsable, issued⟩
  · intro adjoins other text' token' header' parsed' read' spelled'
    rw [verifyCertificates_eq_of_adjoins adjoins intermediate other] at verified
    exact verifyToken_eq_ok_iff.mpr ⟨token', header', parsed', read',
      verifyHeader_eq_ok_iff.mpr ⟨leaf, other, root, spelled', verified⟩⟩

end Positions

/-! ### A certificate that is passed over -/

namespace Lettered

/-- The other certificate, but with a one for the last digit of the day on which its validity ends. It
is valid for the first second of 1970 only. -/
def lapsed : Presented :=
  let bytes := (bytes 0x42).set 59 0x31
  have readable : (Certificate.ofBytes? bytes).isSome := by decide +kernel
  ⟨bytes, (Certificate.ofBytes? bytes).get readable, (Option.some_get _).symm⟩

/-- The entries of a header with that certificate between the anchor and itself. -/
def passing : List String :=
  [entry 0x41, Base64.encode .standard .required lapsed.bytes, entry 0x41]

/-- A token that carries them and nothing else. -/
def passingToken : CompactToken := .written "ES256" passing [] []

theorem passing_spelled : List.Forall₂ Spells (passing.take 3) [anchor.root, lapsed, anchor.root] :=
  .cons (spells_encode anchor.root) (.cons (spells_encode lapsed)
    (.cons (spells_encode anchor.root) .nil))

/-- The second second of 1970. -/
def secondSecond : CertificateTime := ⟨1, 0, 0, false⟩

/-- What the certificates hold: at the second second of 1970 the anchor can be used, and the validity of
the other certificate is over. The anchor does not name that one as its issuer. -/
theorem lapsed_held : checkUsable anchor.root.certificate secondSecond = .ok () ∧
    lapsed.certificate.isValidAt secondSecond = false ∧
    anchor.root.certificate.namesIssuer lapsed.certificate = false := by
  decide +kernel

/-- The anchor is beside itself, so its path needs no other certificate. -/
theorem anchor_verified (intermediates : List Presented) :
    verifyPath anchor.root intermediates anchor.root secondSecond = .ok () :=
  verifyPath_eq_ok_iff.mpr ⟨checkUsable_eq_ok_iff.mp lapsed_held.1, [], .arrived rfl, by decide⟩

/-- **A certificate that is out of its time is passed over.** A token is accepted although the validity
of the certificate after its leaf is over, and although the leaf was not issued by it. -/
theorem lapsed_passed : ∃ header time,
    verifyToken anchor passingToken.text ⟨1000⟩ = .ok Curve.p256.base ∧
    CompactToken.parse passingToken.text = .ok passingToken ∧
    passingToken.readHeader = .ok header ∧
    List.Forall₂ Spells (header.certificates.take 3) [anchor.root, lapsed, anchor.root] ∧
    CertificateTime.ofSeconds? (Instant.seconds ⟨1000⟩) = some time ∧
    lapsed.certificate.isValidAt time = false ∧
    ¬ anchor.root.certificate.IsIssuedBy lapsed.certificate := by
  have parsed := CompactToken.parse_written "ES256" passing [] []
  have read := CompactToken.readHeader_written "ES256" passing [] []
  have timed : CertificateTime.ofSeconds? (Instant.seconds ⟨1000⟩) = some secondSecond := by decide
  have accepted : verifyHeader anchor ⟨"ES256", none, passing⟩ ⟨1000⟩ = .ok Curve.p256.base := by
    refine verifyHeader_eq_ok_iff.mpr ⟨anchor.root, lapsed, some anchor.root, passing_spelled, ?_⟩
    refine verifyCertificates_eq_ok_iff.mpr ⟨secondSecond, timed, ?_, anchor_verified _,
      PublicKeyInfo.signingKey_eq_ok_iff.mpr ⟨elliptic, keyed⟩⟩
    intro carried member
    rw [← Option.some.inj member]
    exact anchor_verified []
  refine ⟨_, secondSecond, verifyToken_eq_ok_iff.mpr ⟨_, _, parsed, read, accepted⟩, parsed, read,
    passing_spelled, timed, lapsed_held.2.1, ?_⟩
  rintro ⟨named, _⟩
  rw [← Certificate.namesIssuer_iff, lapsed_held.2.2] at named
  cases named

/-- The token with the one certificate is accepted, since the token with the other is. -/
theorem passing_accepted : verifyToken anchor token.text ⟨0⟩ = .ok Curve.p256.base ∧
    verifyToken anchor passingToken.text ⟨0⟩ = .ok Curve.p256.base := by
  obtain ⟨written, read, leaf, intermediate, root, _, parsed, readHeader, spelled', _, _, _, _, _,
    swapped⟩ := positions_checked token_accepted_first
  rw [show CompactToken.parse token.text = .ok token from CompactToken.parse_written _ _ _ _] at parsed
  cases parsed
  rw [token_header.1] at readHeader
  cases readHeader
  have carried : List.Forall₂ Spells (header.certificates.take 3)
      (anchor.root :: other :: (some anchor.root).toList) := spelled
  obtain ⟨rfl, rfl, rfl⟩ := Spells.eq_of_forall₂ carried spelled'
  exact ⟨token_accepted_first, swapped (.inl rfl) lapsed _ _ _
    (CompactToken.parse_written "ES256" passing [] [])
    (CompactToken.readHeader_written "ES256" passing [] []) passing_spelled⟩

end Lettered

end SignedPurchase
