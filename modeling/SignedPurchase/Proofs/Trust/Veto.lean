import SignedPurchase.Proofs.Trust.Verdict

/-
**The root that a header carries.**

A root is never trusted because a header carries it. It can keep a header from being accepted, but it
cannot get one accepted: the leaf is checked as if the root were not there. What comes after the root is
not looked at, and neither is anything else in the token.

* `verifyHeader_congr`: the first three entries of a header decide;
* `verifyHeader_eq_bind` gives the steps of the check, `verifyHeader_two` and `verifyHeader_three` those
  without a root and with one;
* `verifyHeader_carried`: carrying a root changes nothing, or is what is blamed;
* `root_vetoes_only` puts this together.
-/

namespace SignedPurchase

/-- A failure that is the fault of the root that a header carries: it cannot be read, or does not lead
to the anchor. -/
def Failure.BlamesRoot (failure : Failure) : Prop :=
  (∃ reason, failure = .unreadableCertificate 2 reason) ∨ TrustAnchor.Opens "root: " failure

/-- An entry of a header spells a root that leads to the anchor without help. -/
def TrustAnchor.AdmitsRoot (anchor : TrustAnchor) (entry : String) (instant : Instant) : Prop :=
  ∃ root time, Spells entry root ∧ CertificateTime.ofSeconds? instant.seconds = some time ∧
    verifyPath root [] anchor.root time = .ok ()

section Headers

variable {anchor : TrustAnchor} {header other : Header} {instant : Instant} {key : Point}
  {first second third : String} {rest : List String}

/-! ### What the check looks at -/

/-- **The first three entries of a header decide.** -/
theorem verifyHeader_congr (same : header.certificates.take 3 = other.certificates.take 3) :
    verifyHeader anchor header instant = verifyHeader anchor other instant := by
  have lengths := congrArg List.length same
  rw [List.length_take, List.length_take] at lengths
  unfold verifyHeader leastCertificates countedCertificates
  by_cases few : header.certificates.length < 2
  · have few' : other.certificates.length < 2 := by omega
    rw [if_pos few, if_pos few']
    congr 2
    omega
  · have enough : ¬ other.certificates.length < 2 := by omega
    rw [if_neg few, if_neg enough, same]

/-- The steps of the check of a header with two entries or more. All that count are read before anything
is checked. -/
theorem verifyHeader_eq_bind (entries : header.certificates = first :: second :: rest) :
    verifyHeader anchor header instant =
      (readCertificate 0 first >>= fun leaf => readCertificate 1 second >>= fun intermediate =>
        readCertificates 2 (rest.take 1) >>= fun roots =>
          verifyCertificates anchor leaf intermediate roots.head? instant) := by
  unfold verifyHeader leastCertificates countedCertificates
  have enough : ¬ (first :: second :: rest).length < 2 := Nat.not_lt.mpr (Nat.le_add_left 2 _)
  have counted : (first :: second :: rest).take 3 = first :: second :: rest.take 1 := rfl
  rw [entries, if_neg enough, counted, readCertificates, readCertificates]
  cases readCertificate 0 first with
  | error failure => rfl
  | ok leaf =>
    cases readCertificate (0 + 1) second with
    | error failure => rfl
    | ok intermediate =>
      show _ = (readCertificates (0 + 1 + 1) (rest.take 1) >>= _)
      cases readCertificates (0 + 1 + 1) (rest.take 1) with
      | error failure => rfl
      | ok roots => rfl

/-- Without a root, the certificates are checked after the second is read. -/
theorem verifyHeader_two (entries : header.certificates = [first, second]) :
    verifyHeader anchor header instant =
      (readCertificate 0 first >>= fun leaf => readCertificate 1 second >>= fun intermediate =>
        verifyCertificates anchor leaf intermediate none instant) := by
  rw [verifyHeader_eq_bind entries]
  rfl

/-- With a root, it is read after them. -/
theorem verifyHeader_three (entries : header.certificates = first :: second :: third :: rest) :
    verifyHeader anchor header instant =
      (readCertificate 0 first >>= fun leaf => readCertificate 1 second >>= fun intermediate =>
        readCertificate 2 third >>= fun root =>
          verifyCertificates anchor leaf intermediate (some root) instant) := by
  rw [verifyHeader_eq_bind entries]
  refine Outcome.bind_congr fun leaf _ => Outcome.bind_congr fun intermediate _ => ?_
  rw [List.take_succ_cons, List.take_zero, readCertificates_cons]
  cases readCertificate 2 third with
  | error failure => rfl
  | ok root => rfl

/-! ### What a root can do -/

/-- A third entry that cannot be read is blamed for it. -/
theorem readCertificate_blames {failure : Failure}
    (failed : readCertificate 2 third = .error failure) : failure.BlamesRoot := by
  have unreadable : ∀ certificate, ¬ Spells third certificate := by
    intro certificate spells
    cases failed.symm.trans (readCertificate_eq_ok_iff.mpr spells)
  obtain ⟨reason, unread⟩ := TrustAnchor.exists_reason_of_unreadable 2 unreadable
  cases failed.symm.trans unread
  exact .inl ⟨reason, rfl⟩

/-- A root that does not lead to the anchor is blamed for it. -/
theorem requireRoot_blames {root : Presented} {time : CertificateTime} {failure : Failure}
    (failed : requireRoot (some root) anchor time = .error failure) : failure.BlamesRoot := by
  rw [requireRoot, requirePath] at failed
  split at failed
  · cases failed
  · rename_i fault _
    cases failed
    exact .inr (TrustAnchor.opens_append "root: " fault.message)

/-- Carrying a root changes nothing for the other certificates, or the root is blamed. -/
theorem verifyCertificates_carried (leaf intermediate root : Presented) :
    verifyCertificates anchor leaf intermediate (some root) instant =
        verifyCertificates anchor leaf intermediate none instant ∨
      ∃ failure, verifyCertificates anchor leaf intermediate (some root) instant = .error failure ∧
        failure.BlamesRoot := by
  unfold verifyCertificates
  cases checkTime instant with
  | error failure => exact .inl rfl
  | ok time =>
    cases required : requireRoot (some root) anchor time with
    | ok done =>
      left
      show (requireRoot (some root) anchor time >>= fun _ => _) = _
      rw [required]
      rfl
    | error failure =>
      right
      refine ⟨failure, ?_, requireRoot_blames required⟩
      show (requireRoot (some root) anchor time >>= fun _ => _) = _
      rw [required]
      rfl

/-- **Carrying a root changes nothing, or the root is blamed**, whatever comes after it and whatever
else the headers say. -/
theorem verifyHeader_carried (entries : header.certificates = first :: second :: third :: rest)
    (two : other.certificates = [first, second]) :
    verifyHeader anchor header instant = verifyHeader anchor other instant ∨
      ∃ failure, verifyHeader anchor header instant = .error failure ∧ failure.BlamesRoot := by
  rw [verifyHeader_three entries, verifyHeader_two two]
  cases readCertificate 0 first with
  | error failure => exact .inl rfl
  | ok leaf =>
    cases readCertificate 1 second with
    | error failure => exact .inl rfl
    | ok intermediate =>
      cases unread : readCertificate 2 third with
      | error failure => exact .inr ⟨failure, rfl, readCertificate_blames unread⟩
      | ok root => exact verifyCertificates_carried leaf intermediate root

/-- **A header with a root is accepted** when it is without the root, and the root leads to the anchor
itself. -/
theorem verifyHeader_carried_eq_ok_iff
    (entries : header.certificates = first :: second :: third :: rest)
    (two : other.certificates = [first, second]) :
    verifyHeader anchor header instant = .ok key ↔
      verifyHeader anchor other instant = .ok key ∧ anchor.AdmitsRoot third instant := by
  simp only [verifyHeader_three entries, verifyHeader_two two, Outcome.bind_eq_ok_iff,
    readCertificate_eq_ok_iff, verifyCertificates_eq_ok_iff, Option.mem_some_iff, forall_eq',
    Option.not_mem_none, false_imp_iff, implies_true, true_and]
  refine ⟨?_, ?_⟩
  · rintro ⟨leaf, spelled, intermediate, spelled', root, carried, time, timed, rootPath, leafPath,
      keyed⟩
    exact ⟨⟨leaf, spelled, intermediate, spelled', time, timed, leafPath, keyed⟩,
      root, time, carried, timed, rootPath⟩
  · rintro ⟨⟨leaf, spelled, intermediate, spelled', time, timed, leafPath, keyed⟩,
      root, time', carried, timed', rootPath⟩
    obtain rfl := Option.some.inj (timed.symm.trans timed')
    exact ⟨leaf, spelled, intermediate, spelled', root, carried, time, timed, rootPath, leafPath,
      keyed⟩

end Headers

/-! ### Tokens -/

section Tokens

variable {anchor : TrustAnchor} {instant : Instant} {text other : String}

/-- The check of a token is that of its header. -/
theorem verifyToken_of_hasHeader {header : Header} (held : HasHeader text header) :
    verifyToken anchor text instant = verifyHeader anchor header instant := by
  obtain ⟨token, bytes, split, spelled, decoded⟩ := held
  have parsed := CompactToken.parse_eq_ok_iff_splitOn.mpr split
  have read := CompactToken.readHeader_eq_ok_iff.mpr ⟨bytes, spelled, decoded⟩
  simp only [verifyToken, bind, Except.bind, parsed, read]

/-- A token that is written has the header that it was written with. -/
theorem hasHeader_written (algorithm : String) (certificates : List String)
    (payload signature : Bytes) :
    HasHeader (CompactToken.written algorithm certificates payload signature).text
      ⟨algorithm, none, certificates⟩ := by
  obtain ⟨bytes, spelled, decoded⟩ := CompactToken.readHeader_eq_ok_iff.mp
    (CompactToken.readHeader_written algorithm certificates payload signature)
  exact ⟨_, bytes, CompactToken.parse_eq_ok_iff_splitOn.mp
    (CompactToken.parse_written algorithm certificates payload signature), spelled, decoded⟩

/-- Tokens with the same header segment are checked alike, a header that cannot be read included. -/
theorem verifyToken_congr {token token' : CompactToken} (parsed : CompactToken.parse text = .ok token)
    (parsed' : CompactToken.parse other = .ok token') (same : token.header = token'.header) :
    verifyToken anchor text instant = verifyToken anchor other instant := by
  simp only [verifyToken, bind, Except.bind, parsed, parsed', CompactToken.readHeader_congr same]

end Tokens

/-- **The root of a header can veto and cannot vouch, and nothing after it counts.** Headers that agree
in their first three entries are checked alike, whatever else they say, and so are tokens with such
headers. Tokens with the same header segment are checked alike whatever their payload and signature
are. A header with a root is accepted with a key exactly when it is without the root, and the root leads
to the anchor itself. If it is accepted without the root, then it is with it, or the root is blamed; if
it is refused without the root, then it is with it for the same reason, or the root is blamed. -/
theorem root_vetoes_only (anchor : TrustAnchor) (instant : Instant) :
    (∀ header other : Header, header.certificates.take 3 = other.certificates.take 3 →
      verifyHeader anchor header instant = verifyHeader anchor other instant) ∧
    (∀ text other header header', HasHeader text header → HasHeader other header' →
      header.certificates.take 3 = header'.certificates.take 3 →
      verifyToken anchor text instant = verifyToken anchor other instant) ∧
    (∀ text other token token', CompactToken.parse text = .ok token →
      CompactToken.parse other = .ok token' → token.header = token'.header →
      verifyToken anchor text instant = verifyToken anchor other instant) ∧
    ∀ (header other : Header) leaf intermediate root rest,
      header.certificates = leaf :: intermediate :: root :: rest →
      other.certificates = [leaf, intermediate] →
      (∀ key, verifyHeader anchor header instant = .ok key ↔
        verifyHeader anchor other instant = .ok key ∧ anchor.AdmitsRoot root instant) ∧
      (∀ key, verifyHeader anchor other instant = .ok key →
        verifyHeader anchor header instant = .ok key ∨ ∃ failure,
          verifyHeader anchor header instant = .error failure ∧ failure.BlamesRoot) ∧
      ∀ refused, verifyHeader anchor other instant = .error refused →
        verifyHeader anchor header instant = .error refused ∨ ∃ failure,
          verifyHeader anchor header instant = .error failure ∧ failure.BlamesRoot := by
  refine ⟨fun _ _ same => verifyHeader_congr same, ?_,
    fun _ _ _ _ parsed parsed' same => verifyToken_congr parsed parsed' same, ?_⟩
  · intro text other header header' held held' same
    rw [verifyToken_of_hasHeader held, verifyToken_of_hasHeader held', verifyHeader_congr same]
  · intro header other leaf intermediate root rest entries two
    have carried : verifyHeader anchor header instant = verifyHeader anchor other instant ∨ _ :=
      verifyHeader_carried entries two
    refine ⟨fun key => verifyHeader_carried_eq_ok_iff entries two, ?_, ?_⟩
    · intro key accepted
      rwa [accepted] at carried
    · intro refused failed
      rwa [failed] at carried

/-! ### A root that is put to the test -/

namespace Lettered

/-- The first two entries, under another algorithm and the name of a key. -/
def rootless : Header := ⟨"RS256", some "key", [entry 0x41, entry 0x42]⟩

/-- The other certificate takes the place of the root. -/
def foreign : Header := ⟨"ES256", none, [entry 0x41, entry 0x42, entry 0x42]⟩

/-- Something that is no certificate stands after the root. -/
def trailed : CompactToken := .written "RS256" (header.certificates ++ ["!"]) [0x7B] [0x00]

/-- The other certificate does not lead to the anchor without help. -/
theorem other_refused : verifyPath other [] anchor.root time ≠ .ok () := by
  decide +kernel

/-- **Without its root the header is accepted too**, with another one the root is blamed, and neither
what stands after it nor the rest of a token matters. -/
theorem rootless_accepted : verifyHeader anchor rootless ⟨0⟩ = .ok Curve.p256.base ∧
    (∃ failure, verifyHeader anchor foreign ⟨0⟩ = .error failure ∧ failure.BlamesRoot) ∧
    verifyToken anchor trailed.text ⟨0⟩ = .ok Curve.p256.base ∧
    verifyToken anchor bare.text ⟨0⟩ = .ok Curve.p256.base := by
  obtain ⟨_, listed, segmented, carried⟩ := root_vetoes_only anchor ⟨0⟩
  have accepted : verifyHeader anchor rootless ⟨0⟩ = .ok Curve.p256.base :=
    (((carried header rootless _ _ _ _ rfl rfl).1 _).mp verified).1
  have parsed : CompactToken.parse token.text = .ok token := CompactToken.parse_written _ _ _ _
  refine ⟨accepted, ?_, ?_, ?_⟩
  · obtain ⟨exact, blamed, _⟩ := carried foreign rootless _ _ _ _ rfl rfl
    refine (blamed _ accepted).resolve_left fun passed => ?_
    obtain ⟨_, root, time', spells, timed', rootPath⟩ := (exact _).mp passed
    obtain rfl := Spells.unique (spells_encode other) spells
    obtain rfl := Option.some.inj (timed.symm.trans timed')
    exact other_refused rootPath
  · rw [listed trailed.text _ _ _ (hasHeader_written _ _ _ _)
      (hasHeader_written header.algorithm header.certificates [] []) rfl]
    exact token_accepted_first
  · rw [segmented bare.text _ _ _ (CompactToken.parse_written _ _ _ _) parsed rfl]
    exact token_accepted_first

end Lettered

end SignedPurchase
