import SignedPurchase.Proofs.Json.Routes
import SignedPurchase.Proofs.Token.Entries
import SignedPurchase.Proofs.Trust.Stages

/-
**Which failure is reported.**

The steps of the gate are put together, with the certificates of a header one after the other. What is
reported for a text is the failure of the first stage that fails.

* `reports_verifyHeader`, `reports_verdict` and `reports_openWith`: the check of a header, all that is
  checked before the payload is looked at, and all of an opening;
* `TrustAnchor.openWith_eq_error_iff` is the rule, the lemmas after it say what it means for single
  failures;
* `TrustAnchor.first_stage_reported` is all of it; `Specimen.torn_text` is a text for which four stages
  fail.
-/

namespace SignedPurchase

open Json

section Whole

variable {α : Type} {anchor : TrustAnchor} {read : Bytes → Except Fault α} {text : String}
  {instant : Instant} {header : Header}

/-! ### The certificates of a header -/

/-- An entry goes before the entries after it. -/
theorem reports_readCertificates_cons (index : Fin 3) {entry : String} {rest : List String}
    {later : List Stage} (held : HasHeader text header)
    (found : header.certificates[index.val]? = some entry)
    (reports : Reports (anchor.Fails read text instant) later (readCertificates (index + 1) rest)) :
    Reports (anchor.Fails read text instant) (.entryText index :: .entryCertificate index :: later)
      (readCertificates index (entry :: rest)) := by
  rw [readCertificates_cons]
  exact (reports_readCertificate held found).bind fun certificate _ => reports.map _

theorem reports_readCertificates (held : HasHeader text header)
    (enough : 2 ≤ header.certificates.length) :
    Reports (anchor.Fails read text instant)
      [.entryText 0, .entryCertificate 0, .entryText 1, .entryCertificate 1, .entryText 2,
        .entryCertificate 2] (readCertificates 0 (header.certificates.take 3)) := by
  match entries : header.certificates, enough with
  | first :: second :: rest, _ =>
    have zeroth : header.certificates[(0 : Fin 3).val]? = some first := by
      rw [entries]
      rfl
    have next : header.certificates[(1 : Fin 3).val]? = some second := by
      rw [entries]
      rfl
    refine reports_readCertificates_cons 0 held zeroth ?_
    refine reports_readCertificates_cons 1 held next ?_
    cases rest with
    | nil =>
      refine reports_noEntry held ?_ []
      rw [entries]
      rfl
    | cons third rest =>
      refine reports_readCertificates_cons 2 held ?_ ?_
      · rw [entries]
        rfl
      · exact reports_ok fun stage none => absurd none List.not_mem_nil

/-- The certificates that are read are those at their places. -/
theorem hasCertificate_iff {certificates : List Presented} {index : Nat} {certificate : Presented}
    (held : HasHeader text header)
    (spelled : List.Forall₂ Spells (header.certificates.take 3) certificates) (small : index < 3) :
    HasCertificate text index certificate ↔ certificates[index]? = some certificate := by
  have here : HasCertificate text index certificate ↔
      ∃ entry, (header.certificates.take 3)[index]? = some entry ∧ Spells entry certificate := by
    rw [List.getElem?_take_of_lt small]
    refine ⟨?_, ?_⟩
    · rintro ⟨other, entry, held', found, spells⟩
      obtain rfl := held.unique held'
      exact ⟨entry, found, spells⟩
    · rintro ⟨entry, found, spells⟩
      exact ⟨header, entry, held, found, spells⟩
  rw [here]
  generalize header.certificates.take 3 = entries at spelled
  clear here small
  induction spelled generalizing index with
  | nil => simp only [List.getElem?_nil, reduceCtorEq, false_and, exists_false]
  | @cons entry other entries certificates spells _ ih =>
    cases index with
    | zero =>
      simp only [List.getElem?_cons_zero, Option.some.injEq, exists_eq_left']
      refine ⟨fun spells' => ?_, fun same => same ▸ spells⟩
      exact Presented.eq_of_bytes (Option.some.inj (spells.symm.trans spells'))
    | succ index =>
      simp only [List.getElem?_cons_succ]
      exact ih

theorem reports_count (held : HasHeader text header) :
    Reports (anchor.Fails read text instant) [.chain]
      (if 2 ≤ header.certificates.length then .ok ()
        else .error (.missingCertificates header.certificates.length) : Outcome Unit) := by
  refine reports_require fun failure => ⟨?_, ?_⟩
  · intro fails
    cases fails with
    | chain held' few =>
      obtain rfl := held.unique held'
      exact ⟨Nat.not_le.mpr few, rfl⟩
  · rintro ⟨few, rfl⟩
    exact .chain held (Nat.not_le.mp few)

theorem reports_verifyHeader (held : HasHeader text header) :
    Reports (anchor.Fails read text instant)
      [.chain, .entryText 0, .entryCertificate 0, .entryText 1, .entryCertificate 1, .entryText 2,
        .entryCertificate 2, .time, .rootPath, .leafPath, .key]
      (verifyHeader anchor header instant) := by
  unfold verifyHeader leastCertificates countedCertificates
  refine (reports_count held).andThen ?_ ?_
  · intro found refused
    by_cases few : header.certificates.length < 2
    · rw [if_neg (Nat.not_le.mpr few)] at refused
      cases refused
      rw [if_pos few]
    · rw [if_pos (Nat.not_lt.mp few)] at refused
      cases refused
  intro _ passed
  have enough : 2 ≤ header.certificates.length := Outcome.require_eq_ok_iff.mp passed
  rw [if_neg (Nat.not_lt.mpr enough)]
  refine (reports_readCertificates held enough).andThen ?_ ?_
  · intro found unread
    rw [unread]
  intro certificates found
  have spelled := readCertificates_eq_ok_iff.mp found
  have lengths : certificates.length = min 3 header.certificates.length :=
    spelled.length_eq.symm.trans List.length_take
  rw [found]
  -- At least two certificates were read.
  cases certificates with
  | nil =>
    rw [List.length_nil] at lengths
    omega
  | cons leaf others =>
    cases others with
    | nil =>
      rw [List.length_singleton] at lengths
      omega
    | cons intermediate rest =>
      refine reports_verifyCertificates ?_ ?_ ?_
      · exact (hasCertificate_iff held spelled (by decide)).mpr rfl
      · exact (hasCertificate_iff held spelled (by decide)).mpr rfl
      · intro other
        rw [hasCertificate_iff held spelled (by decide), List.head?_eq_getElem?]
        rfl

/-! ### The whole of a text -/

theorem reports_verdict :
    Reports (anchor.Fails read text instant)
      [.segments, .headerText, .headerRecord, .chain, .entryText 0, .entryCertificate 0,
        .entryText 1, .entryCertificate 1, .entryText 2, .entryCertificate 2, .time, .rootPath,
        .leafPath, .key, .algorithm, .signatureText, .signaturePair, .signature]
      (anchor.verdict text instant) := by
  refine reports_parse.bind fun token parsed => ?_
  have split : HasSegments text token := CompactToken.parse_eq_ok_iff_splitOn.mp parsed
  refine (reports_readHeader split).bind fun header found => ?_
  obtain ⟨bytes, spelled, decoded⟩ := CompactToken.readHeader_eq_ok_iff.mp found
  have held : HasHeader text header := ⟨token, bytes, split, spelled, decoded⟩
  refine (reports_verifyHeader held).bind fun key vouched => ?_
  obtain ⟨leaf, intermediate, root, spelled, verified⟩ := verifyHeader_eq_ok_iff.mp vouched
  -- The key under which the signature must verify is that of the leaf.
  obtain ⟨_, _, _, _, keyed⟩ := verifyCertificates_eq_ok_iff.mp verified
  have first : HasCertificate text 0 leaf :=
    (hasCertificate_iff held spelled (by decide)).mpr rfl
  refine (reports_checkAlgorithm held).bind fun _ _ => ?_
  refine (reports_checkSignature split first keyed).bind fun _ _ => ?_
  exact reports_ok fun stage none => absurd none List.not_mem_nil

theorem reports_verifiedPayload :
    Reports (anchor.Fails read text instant)
      [.segments, .headerText, .headerRecord, .chain, .entryText 0, .entryCertificate 0,
        .entryText 1, .entryCertificate 1, .entryText 2, .entryCertificate 2, .time, .rootPath,
        .leafPath, .key, .algorithm, .signatureText, .signaturePair, .signature, .payloadText]
      (anchor.verifiedPayload text instant) := by
  rw [TrustAnchor.verifiedPayload_eq_bind]
  refine reports_verdict.bind fun token found => ?_
  obtain ⟨parsed, _⟩ := TrustAnchor.verdict_eq_ok_iff.mp found
  exact reports_payloadBytes (CompactToken.parse_eq_ok_iff_splitOn.mp parsed)

theorem reports_openWith :
    Reports (anchor.Fails read text instant) Stage.order (anchor.openWith read text instant) := by
  refine reports_verifiedPayload.bind fun bytes verified => ?_
  obtain ⟨payload, ⟨evidence⟩, spelled⟩ := TrustAnchor.verifiedPayload_eq_ok_iff.mp verified
  have split : HasSegments text ⟨evidence.header, payload, evidence.signature⟩ := evidence.split
  exact reports_readPayload split spelled

end Whole

namespace TrustAnchor

section Reported

variable {α : Type} {anchor : TrustAnchor} {read : Bytes → Except Fault α} {text : String}
  {instant : Instant} {header : Header} {stage : Stage} {failure : Failure} {index : Nat}

/-- **The failure of the first stage that fails** is reported. -/
theorem openWith_eq_error_iff :
    anchor.openWith read text instant = .error failure ↔
      ∃ stage, anchor.Fails read text instant stage failure ∧
        ∀ earlier < stage, ∀ other, ¬ anchor.Fails read text instant earlier other := by
  refine (reports_openWith failure).trans (firstFails_iff.trans ?_)
  simp only [Stage.mem_order, true_and, forall_const]
  exact Iff.rfl

theorem StopsAt.exists_openWith (stops : anchor.StopsAt read text instant stage) :
    ∃ failure, anchor.openWith read text instant = .error failure ∧
      anchor.Fails read text instant stage failure := by
  obtain ⟨⟨failure, failing⟩, none⟩ := stops
  exact ⟨failure, openWith_eq_error_iff.mpr ⟨stage, failing, none⟩, failing⟩

/-- A header that is refused is the failure that is reported. -/
theorem openWith_of_refused (held : HasHeader text header)
    (refused : verifyHeader anchor header instant = .error failure) :
    anchor.openWith read text instant = .error failure := by
  obtain ⟨token, bytes, split, spelled, decoded⟩ := held
  have parsed : CompactToken.parse text = .ok token :=
    CompactToken.parse_eq_ok_iff_splitOn.mpr split
  have found : token.readHeader = .ok header :=
    CompactToken.readHeader_eq_ok_iff.mpr ⟨bytes, spelled, decoded⟩
  simp only [openWith, verifiedPayload, bind, Except.bind, parsed, found, refused]

/-! ### Segments and certificates -/

theorem openWith_eq_malformedToken_iff {count : Nat} :
    anchor.openWith read text instant = .error (.malformedToken count) ↔
      count = (text.toList.splitOn '.').length ∧ count ≠ 3 := by
  rw [openWith_eq_error_iff]
  refine ⟨?_, ?_⟩
  · rintro ⟨stage, failing, _⟩
    cases failing with
    | segments other => exact ⟨rfl, other⟩
  · rintro ⟨rfl, other⟩
    exact ⟨.segments, .segments other, fun earlier before => absurd before (Nat.not_lt_zero _)⟩

theorem openWith_eq_missingCertificates_iff {count : Nat} :
    anchor.openWith read text instant = .error (.missingCertificates count) ↔
      ∃ header, HasHeader text header ∧ header.certificates.length = count ∧ count < 2 := by
  refine ⟨?_, ?_⟩
  · intro refused
    obtain ⟨stage, failing, _⟩ := openWith_eq_error_iff.mp refused
    cases failing with
    | chain held few => exact ⟨_, held, rfl, few⟩
  · rintro ⟨header, held, rfl, few⟩
    refine openWith_of_refused held ?_
    rw [verifyHeader, leastCertificates, if_pos few]

/-- The first entry that spells no certificate stops the reading. -/
theorem readCertificates_of_unreadable {entries : List String} {start : Nat} {entry : String}
    (found : entries[index]? = some entry)
    (unread : readCertificate (start + index) entry = .error failure)
    (readable : ∀ smaller < index, ∃ entry certificate, entries[smaller]? = some entry ∧
      Spells entry certificate) :
    readCertificates start entries = .error failure := by
  induction index generalizing start entries with
  | zero =>
    cases entries with
    | nil => cases found
    | cons first rest =>
      obtain rfl := Option.some.inj found
      rw [Nat.add_zero] at unread
      rw [readCertificates, unread]
  | succ index ih =>
    cases entries with
    | nil => cases found
    | cons first rest =>
      obtain ⟨entry, certificate, here, spells⟩ := readable 0 (Nat.succ_pos _)
      obtain rfl := Option.some.inj here
      have later : readCertificates (start + 1) rest = .error failure := by
        refine ih found ?_ fun smaller small => readable (smaller + 1) (Nat.succ_lt_succ small)
        rw [Nat.add_right_comm]
        exact unread
      rw [readCertificates, readCertificate_eq_ok_iff.mpr spells]
      simp only [later]

/-- An entry that spells no certificate is refused with its place. -/
theorem exists_reason_of_unreadable (index : Nat) {entry : String}
    (unreadable : ∀ certificate, ¬ Spells entry certificate) :
    ∃ reason, readCertificate index entry = .error (.unreadableCertificate index reason) := by
  cases read : readCertificate index entry with
  | ok certificate => exact absurd (readCertificate_eq_ok_iff.mp read) (unreadable certificate)
  | error failure =>
    unfold readCertificate at read
    split at read
    · cases read
      exact ⟨_, rfl⟩
    · split at read
      · cases read
        exact ⟨_, rfl⟩
      · cases read

/-- The stages of an entry come after the number of entries and after the entries before it. -/
theorem entries_before {place : Fin 3}
    (isEntry : stage = .entryText place ∨ stage = .entryCertificate place) :
    .chain < stage ∧
      ∀ smaller < place, .entryText smaller < stage ∧ .entryCertificate smaller < stage := by
  rcases isEntry with rfl | rfl
  · revert place
    decide
  · revert place
    decide

/-- An entry at a place that does not fail is a certificate. -/
theorem exists_hasCertificate {place : Fin 3} (held : HasHeader text header)
    (within : place.val < header.certificates.length)
    (spelled : ∀ other, ¬ anchor.Fails read text instant (.entryText place) other)
    (readable : ∀ other, ¬ anchor.Fails read text instant (.entryCertificate place) other) :
    ∃ certificate, HasCertificate text place certificate := by
  have found := List.getElem?_eq_getElem within
  cases decoded : Base64.decode? .standard .required header.certificates[place.val].toList with
  | none => exact absurd (.entryText held found decoded) (spelled _)
  | some bytes =>
    cases given : Presented.ofBytes? bytes with
    | none =>
      exact absurd (.entryCertificate held found decoded (Presented.ofBytes?_eq_none_iff.mp given))
        (readable _)
    | some certificate =>
      have same := Presented.ofBytes?_eq_some_iff.mp given
      exact ⟨certificate, header, _, held, found, decoded.trans (congrArg some same.symm)⟩

/-- A failure to read a certificate comes from an entry that spells none. -/
theorem exists_entry_of_fails {reason : String}
    (failing : anchor.Fails read text instant stage (.unreadableCertificate index reason)) :
    ∃ (place : Fin 3) (header : Header) (entry : String), index = place ∧
      (stage = .entryText place ∨ stage = .entryCertificate place) ∧ HasHeader text header ∧
      header.certificates[place.val]? = some entry ∧
      ∀ certificate, ¬ Spells entry certificate := by
  cases failing with
  | @entryText header place entry held found undecoded =>
    refine ⟨place, header, entry, rfl, .inl rfl, held, found, fun certificate spells => ?_⟩
    cases undecoded.symm.trans spells
  | @entryCertificate header place entry bytes held found spelled unread =>
    refine ⟨place, header, entry, rfl, .inr rfl, held, found, fun certificate spells => ?_⟩
    obtain rfl := Option.some.inj (spelled.symm.trans spells)
    cases unread.symm.trans certificate.read

/-- The first of three entries that spells no certificate is refused. -/
theorem exists_verifyHeader_of_unreadable (held : HasHeader text header)
    (enough : 2 ≤ header.certificates.length) (within : index < min 3 header.certificates.length)
    (unreadable : ∀ certificate, ¬ HasCertificate text index certificate)
    (readable : ∀ smaller < index, ∃ certificate, HasCertificate text smaller certificate) :
    ∃ reason, verifyHeader anchor header instant =
      .error (.unreadableCertificate index reason) := by
  obtain ⟨counted, within⟩ := Nat.lt_min.mp within
  have here : ∀ smaller, smaller ≤ index →
      (header.certificates.take 3)[smaller]? = header.certificates[smaller]? :=
    fun smaller small => List.getElem?_take_of_lt (Nat.lt_of_le_of_lt small counted)
  have found := List.getElem?_eq_getElem within
  obtain ⟨reason, unread⟩ := exists_reason_of_unreadable index
    fun certificate spells => unreadable certificate ⟨header, _, held, found, spells⟩
  have stopped : readCertificates 0 (header.certificates.take 3) =
      .error (.unreadableCertificate index reason) := by
    refine readCertificates_of_unreadable ((here index le_rfl).trans found) ?_ ?_
    · rw [Nat.zero_add]
      exact unread
    · intro smaller small
      obtain ⟨certificate, other, entry, held', found', spells⟩ := readable smaller small
      obtain rfl := held.unique held'
      exact ⟨entry, certificate, (here smaller small.le).trans found', spells⟩
  refine ⟨reason, ?_⟩
  rw [verifyHeader, leastCertificates, countedCertificates, if_neg (Nat.not_lt.mpr enough),
    stopped]

/-- **A certificate that cannot be read** is reported exactly when it is the first such. -/
theorem exists_openWith_eq_unreadableCertificate_iff :
    (∃ reason, anchor.openWith read text instant = .error (.unreadableCertificate index reason)) ↔
      ∃ header, HasHeader text header ∧ 2 ≤ header.certificates.length ∧
        index < min 3 header.certificates.length ∧
        (∀ certificate, ¬ HasCertificate text index certificate) ∧
        ∀ smaller < index, ∃ certificate, HasCertificate text smaller certificate := by
  refine ⟨?_, ?_⟩
  · rintro ⟨reason, refused⟩
    obtain ⟨stage, failing, none⟩ := openWith_eq_error_iff.mp refused
    obtain ⟨place, header, entry, rfl, isEntry, held, found, unreadable⟩ :=
      exists_entry_of_fails failing
    obtain ⟨late, before⟩ := entries_before isEntry
    have within : place.val < header.certificates.length := (List.getElem?_eq_some_iff.mp found).1
    refine ⟨header, held, ?_, Nat.lt_min.mpr ⟨place.isLt, within⟩, ?_, ?_⟩
    · by_contra few
      exact none .chain late _ (.chain held (Nat.not_le.mp few))
    · rintro certificate ⟨other, entry', held', found', spells⟩
      obtain rfl := held.unique held'
      obtain rfl := Option.some.inj (found.symm.trans found')
      exact unreadable certificate spells
    -- Neither stage of an entry before it failed, so that entry is a certificate.
    · intro smaller small
      have small : (⟨smaller, small.trans place.isLt⟩ : Fin 3) < place := small
      obtain ⟨text, certificate⟩ := before _ small
      exact exists_hasCertificate held (Nat.lt_trans small within) (none _ text)
        (none _ certificate)
  · rintro ⟨header, held, enough, within, unreadable, readable⟩
    obtain ⟨reason, refused⟩ :=
      exists_verifyHeader_of_unreadable held enough within unreadable readable
    exact ⟨reason, openWith_of_refused held refused⟩

/-! ### Paths and the algorithm -/

/-- A stage that words its failures in its own way is the one that stopped when they are reported. -/
theorem stopsAt_iff_of_worded {worded : Failure → Prop}
    (own : ∀ failure, anchor.Fails read text instant stage failure → worded failure)
    (only : ∀ other failure, anchor.Fails read text instant other failure → worded failure →
      other = stage) :
    anchor.StopsAt read text instant stage ↔
      ∃ failure, anchor.openWith read text instant = .error failure ∧ worded failure := by
  refine ⟨?_, ?_⟩
  · intro stops
    obtain ⟨failure, refused, failing⟩ := stops.exists_openWith
    exact ⟨failure, refused, own failure failing⟩
  · rintro ⟨failure, refused, isOwn⟩
    obtain ⟨other, failing, none⟩ := openWith_eq_error_iff.mp refused
    obtain rfl := only other failure failing isOwn
    exact ⟨⟨failure, failing⟩, none⟩

/-- The failure of a chain whose reason starts with some words. -/
def Opens (words : String) (failure : Failure) : Prop :=
  ∃ reason, failure = .rejectedChain reason ∧ words.toList <+: reason.toList

theorem opens_append (words rest : String) : Opens words (.rejectedChain (words ++ rest)) := by
  refine ⟨_, rfl, ?_⟩
  rw [String.toList_append]
  exact List.prefix_append _ _

/-- Only three stages fail with the failure of a chain, each in its own words. -/
theorem stage_of_opens {words : String} (failing : anchor.Fails read text instant stage failure)
    (opens : Opens words failure) :
    (stage = .time ∧ words.toList <+: "evaluation time out of range".toList) ∨
      (stage = .rootPath ∧ ∃ rest, words.toList <+: ("root: " ++ rest).toList) ∨
      (stage = .leafPath ∧ ∃ rest, words.toList <+: ("leaf: " ++ rest).toList) := by
  obtain ⟨reason, rfl, starts⟩ := opens
  cases failing with
  | time _ => exact .inl ⟨rfl, starts⟩
  | rootPath _ _ _ => exact .inr (.inl ⟨rfl, _, starts⟩)
  | leafPath _ _ _ _ => exact .inr (.inr ⟨rfl, _, starts⟩)

theorem stopsAt_time_iff :
    anchor.StopsAt read text instant .time ↔
      ∃ failure, anchor.openWith read text instant = .error failure ∧
        Opens "evaluation time out of range" failure := by
  refine stopsAt_iff_of_worded ?_ ?_
  · intro failure failing
    cases failing with
    | time _ => exact ⟨_, rfl, List.prefix_rfl⟩
  · intro other failure failing opens
    rcases stage_of_opens failing opens with ⟨rfl, _⟩ | ⟨_, rest, starts⟩ | ⟨_, rest, starts⟩
    · rfl
    · simp at starts
    · simp at starts

theorem stopsAt_rootPath_iff :
    anchor.StopsAt read text instant .rootPath ↔
      ∃ failure, anchor.openWith read text instant = .error failure ∧ Opens "root: " failure := by
  refine stopsAt_iff_of_worded ?_ ?_
  · intro failure failing
    cases failing with
    | rootPath _ _ _ => exact opens_append _ _
  · intro other failure failing opens
    rcases stage_of_opens failing opens with ⟨_, starts⟩ | ⟨rfl, _⟩ | ⟨_, rest, starts⟩
    · simp at starts
    · rfl
    · simp at starts

theorem stopsAt_leafPath_iff :
    anchor.StopsAt read text instant .leafPath ↔
      ∃ failure, anchor.openWith read text instant = .error failure ∧ Opens "leaf: " failure := by
  refine stopsAt_iff_of_worded ?_ ?_
  · intro failure failing
    cases failing with
    | leafPath _ _ _ _ => exact opens_append _ _
  · intro other failure failing opens
    rcases stage_of_opens failing opens with ⟨_, starts⟩ | ⟨_, rest, starts⟩ | ⟨rfl, _⟩
    · simp at starts
    · simp at starts
    · rfl

/-- The algorithm that is reported is the one that the header names. -/
theorem openWith_eq_unsupportedAlgorithm_iff {name : String} :
    anchor.openWith read text instant = .error (.unsupportedAlgorithm name) ↔
      anchor.StopsAt read text instant .algorithm ∧
        ∃ header, HasHeader text header ∧ header.algorithm = name := by
  refine ⟨?_, ?_⟩
  · intro refused
    obtain ⟨stage, failing, none⟩ := openWith_eq_error_iff.mp refused
    cases failing with
    | algorithm held other => exact ⟨⟨⟨_, .algorithm held other⟩, none⟩, _, held, rfl⟩
  · rintro ⟨stops, header, held, rfl⟩
    obtain ⟨failure, refused, failing⟩ := stops.exists_openWith
    cases failing with
    | algorithm held' _ =>
      obtain rfl := held.unique held'
      exact refused

theorem exists_openWith_eq_of_cause_iff {cause : Cause} :
    (∃ failure, anchor.openWith read text instant = .error failure ∧
      failure.cause? = some cause) ↔
      ∃ stage, stage.cause = cause ∧ anchor.StopsAt read text instant stage := by
  refine ⟨?_, ?_⟩
  · rintro ⟨failure, refused, caused⟩
    obtain ⟨stage, failing, none⟩ := openWith_eq_error_iff.mp refused
    exact ⟨stage, Option.some.inj (failing.cause.symm.trans caused), ⟨failure, failing⟩, none⟩
  · rintro ⟨stage, rfl, stops⟩
    obtain ⟨failure, refused, failing⟩ := stops.exists_openWith
    exact ⟨failure, refused, failing.cause⟩

/-- What a header names its certificates by. -/
theorem exists_offers_of_hasHeader (held : HasHeader text header) :
    ∃ token bytes value, HasSegments text token ∧
      CompactToken.segmentBytes? token.header = some bytes ∧
      Header.Offers (Document.read bytes).root value ∧
      Header.Lists value header.certificates := by
  obtain ⟨token, bytes, split, spelled, decoded⟩ := held
  obtain ⟨value, offers, lists⟩ := Header.exists_offers (Shape.decode_eq_ok_iff.mp decoded).1
  exact ⟨token, bytes, value, split, spelled, offers, lists⟩

end Reported

/-! ### All of it -/

/-- **The failure that is reported is that of the first stage that fails**, for every anchor, text,
instant and way of reading the payload, that of any shape among them; if none fails, the payload is
given. A cause is reported exactly when the first stage that fails has this cause. A text with another
number of segments is reported with that number, and a header with less than two certificates with
theirs: the items of its list of certificates, or none where that is absent or `null`. A certificate
that cannot be read is the first such of at most three. A path is reported under the name of where it
starts, an algorithm as the header names it. -/
theorem first_stage_reported {α : Type} (anchor : TrustAnchor) (read : Bytes → Except Fault α)
    (text : String) (instant : Instant) :
    (∀ failure, anchor.openWith read text instant = .error failure ↔
      ∃ stage, anchor.Fails read text instant stage failure ∧
        ∀ earlier < stage, ∀ other, ¬ anchor.Fails read text instant earlier other) ∧
    ((∃ value, anchor.openWith read text instant = .ok value) ↔
      ∀ stage failure, ¬ anchor.Fails read text instant stage failure) ∧
    (∀ cause, (∃ failure, anchor.openWith read text instant = .error failure ∧
        failure.cause? = some cause) ↔
      ∃ stage, stage.cause = cause ∧ anchor.StopsAt read text instant stage) ∧
    (∀ count, anchor.openWith read text instant = .error (.malformedToken count) ↔
      count = (text.toList.splitOn '.').length ∧ count ≠ 3) ∧
    (∀ count, anchor.openWith read text instant = .error (.missingCertificates count) ↔
      ∃ header, HasHeader text header ∧ header.certificates.length = count ∧ count < 2) ∧
    (∀ header, HasHeader text header → ∃ token bytes value, HasSegments text token ∧
      CompactToken.segmentBytes? token.header = some bytes ∧
      Header.Offers (Document.read bytes).root value ∧ Header.Lists value header.certificates) ∧
    (∀ index, (∃ reason, anchor.openWith read text instant =
        .error (.unreadableCertificate index reason)) ↔
      ∃ header, HasHeader text header ∧ 2 ≤ header.certificates.length ∧
        index < min 3 header.certificates.length ∧
        (∀ certificate, ¬ HasCertificate text index certificate) ∧
        ∀ smaller < index, ∃ certificate, HasCertificate text smaller certificate) ∧
    (anchor.StopsAt read text instant .time ↔ ∃ failure,
      anchor.openWith read text instant = .error failure ∧
        Opens "evaluation time out of range" failure) ∧
    (anchor.StopsAt read text instant .rootPath ↔ ∃ failure,
      anchor.openWith read text instant = .error failure ∧ Opens "root: " failure) ∧
    (anchor.StopsAt read text instant .leafPath ↔ ∃ failure,
      anchor.openWith read text instant = .error failure ∧ Opens "leaf: " failure) ∧
    ∀ name, anchor.openWith read text instant = .error (.unsupportedAlgorithm name) ↔
      anchor.StopsAt read text instant .algorithm ∧
        ∃ header, HasHeader text header ∧ header.algorithm = name := by
  refine ⟨?_, ?_, ?_, ?_, ?_, ?_, ?_, stopsAt_time_iff, stopsAt_rootPath_iff, stopsAt_leafPath_iff,
    ?_⟩
  · exact fun failure => openWith_eq_error_iff
  · refine reports_openWith.isOk_iff.trans ?_
    simp only [Stage.mem_order, forall_const]
  · exact fun cause => exists_openWith_eq_of_cause_iff
  · exact fun count => openWith_eq_malformedToken_iff
  · exact fun count => openWith_eq_missingCertificates_iff
  · exact fun header held => exists_offers_of_hasHeader held
  · exact fun index => exists_openWith_eq_unreadableCertificate_iff
  · exact fun name => openWith_eq_unsupportedAlgorithm_iff

end TrustAnchor

namespace Specimen

/-- A text without certificates, algorithm, signature and payload. -/
def tornText : String := "e30.!.!"

/-- **Of four stages that fail, the first is reported.** -/
theorem torn_text :
    Lettered.anchor.Fails Tree.decode tornText ⟨0⟩ .chain (.missingCertificates 0) ∧
      Lettered.anchor.Fails Tree.decode tornText ⟨0⟩ .algorithm (.unsupportedAlgorithm "") ∧
      Lettered.anchor.Fails Tree.decode tornText ⟨0⟩ .signatureText
        (.invalidSignature "invalid base64url signature") ∧
      Lettered.anchor.Fails Tree.decode tornText ⟨0⟩ .payloadText
        (.undecodedPayload "invalid base64url payload") ∧
      Lettered.anchor.openTree tornText ⟨0⟩ = .error (.missingCertificates 0) := by
  have split : HasSegments tornText ⟨"e30".toList, ['!'], ['!']⟩ := by
    unfold HasSegments
    decide
  have held : HasHeader tornText ⟨"", none, []⟩ := ⟨_, [0x7B, 0x7D], split, by decide, rfl⟩
  refine ⟨.chain held (by decide), .algorithm held (by decide), .signatureText split (by decide),
    .payloadText split (by decide), ?_⟩
  exact ((TrustAnchor.first_stage_reported Lettered.anchor Tree.decode tornText ⟨0⟩).2.2.2.2.1 0).mpr
    ⟨_, held, rfl, by decide⟩

end Specimen

end SignedPurchase
