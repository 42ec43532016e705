import SignedPurchase.Proofs.Digest.Schedule
import SignedPurchase.Proofs.Trust.Diagnosis
import SignedPurchase.Proofs.Trust.Window

/-
**What a failure says of a text.**

Whether a text is to be trusted is settled before its payload is looked at. The failures that say it is
not are therefore the same whatever the text was to be opened as, and every other failure says that all
was found good but the payload.

* `Target` lists what a payload can be opened as, `TrustAnchor.openTarget` opens it;
* `TrustAnchor.verdict_fails`: a verdict fails with nothing but failures of trust;
* `TrustAnchor.openTarget_eq_error_iff`: an opening fails as the verdict does, or as its own way of
  reading does after it;
* `TrustAnchor.Alike.verdict_eq_error_iff`: two texts that differ in their payload alone have the same
  verdict, unless the signature tells them apart;
* `TrustAnchor.RefusedWithin` and `TrustAnchor.RefusedAmong` find the text that fails among several;
* `TrustAnchor.trust_failures_exact` puts this together.
-/

namespace SignedPurchase

open Json

/-! ### What a payload is opened as -/

/-- What a payload can be opened as: a tree, the record of a shape, or a record that is told by its
members. -/
inductive Target : Type → Type 1 where
  | tree : Target Tree
  | shaped {α : Type} (shape : Shape α) : Target α
  | told : Target SignedRecord

/-- How the bytes of a payload are read. -/
def Target.read {α : Type} : Target α → Bytes → Outcome α
  | .tree, payload => readPayload (Tree.decode payload)
  | .shaped shape, payload => readPayload (shape.decode payload)
  | .told, payload => readPayload (Tree.decode payload) >>= SignedRecord.ofTree

/-- A text opened as a target. -/
def TrustAnchor.openTarget {α : Type} (anchor : TrustAnchor) :
    Target α → String → Instant → Outcome α
  | .tree, text, instant => anchor.openTree text instant
  | .shaped shape, text, instant => anchor.openAs shape text instant
  | .told, text, instant => anchor.openRecord text instant

/-- A text is verified when there is evidence for its payload: its certificates, its algorithm and its
signature were all found good. -/
def TrustAnchor.IsVerified (anchor : TrustAnchor) (instant : Instant) (text : String) : Prop :=
  ∃ payload, Nonempty (anchor.Evidence instant text payload)

/-- Two texts that differ in their payload alone, over which the signature holds in both or in neither,
under the key that the certificates vouch for. -/
structure TrustAnchor.Alike (anchor : TrustAnchor) (instant : Instant) (text other : String)
    (token token' : CompactToken) : Prop where
  split : HasSegments text token
  split' : HasSegments other token'
  header : token.header = token'.header
  signature : token.signature = token'.signature
  attested : ∀ fields key bytes, HasHeader text fields →
    verifyHeader anchor fields instant = .ok key →
    CompactToken.segmentBytes? token.signature = some bytes →
    (Es256.Attests key (Utf8.encode token.signingInput) bytes ↔
      Es256.Attests key (Utf8.encode token'.signingInput) bytes)

/-! ### Failures of trust and of payloads -/

/-- A failure of trust is one with a cause other than the payload. -/
theorem Failure.isTrustFailure_iff {failure : Failure} :
    failure.isTrustFailure = true ↔
      ∃ cause, failure.cause? = some cause ∧ cause ≠ .payload := by
  cases failure <;> simp [isTrustFailure, cause?]

section Reading

variable {α : Type} {failure : Failure}

theorem readPayload_fails {read : Except Fault α} (failed : readPayload read = .error failure) :
    ∃ reason, failure = .undecodedPayload reason := by
  cases read with
  | ok value => cases failed
  | error fault =>
    cases failed
    exact ⟨_, rfl⟩

theorem SignedRecord.ofTree_fails {tree : Tree} (failed : ofTree tree = .error failure) :
    ∃ reason, failure = .undecodedPayload reason := by
  rw [ofTree] at failed
  split at failed
  · exact readPayload_fails (Outcome.map_eq_error_iff.mp failed)
  · split at failed
    · exact readPayload_fails (Outcome.map_eq_error_iff.mp failed)
    · cases failed
      exact ⟨_, rfl⟩

theorem Target.read_fails {target : Target α} {payload : Bytes}
    (failed : target.read payload = .error failure) :
    ∃ reason, failure = .undecodedPayload reason := by
  cases target with
  | tree => exact readPayload_fails failed
  | shaped shape => exact readPayload_fails failed
  | told =>
    rcases Outcome.bind_eq_error_iff.mp failed with unread | ⟨tree, _, untold⟩
    · exact readPayload_fails unread
    · exact SignedRecord.ofTree_fails untold

theorem CompactToken.payloadBytes_fails {token : CompactToken}
    (failed : token.payloadBytes = .error failure) :
    ∃ reason, failure = .undecodedPayload reason := by
  unfold payloadBytes at failed
  split at failed
  · cases failed
  · cases failed
    exact ⟨_, rfl⟩

end Reading

/-! ### Verdicts -/

/-- Tokens with the same header segment have the same header. -/
theorem CompactToken.readHeader_congr {token other : CompactToken}
    (same : token.header = other.header) : token.readHeader = other.readHeader := by
  rw [readHeader, readHeader, headerBytes?, headerBytes?, same]

/-- A signature is checked alike in two tokens when it attests both or neither. -/
theorem CompactToken.checkSignature_congr {token other : CompactToken} {key : Point}
    (same : token.signature = other.signature)
    (agree : ∀ bytes, segmentBytes? token.signature = some bytes →
      (Es256.Attests key (Utf8.encode token.signingInput) bytes ↔
        Es256.Attests key (Utf8.encode other.signingInput) bytes)) :
    token.checkSignature key = other.checkSignature key := by
  rw [checkSignature_eq_bind, checkSignature_eq_bind, ← same]
  refine Outcome.bind_congr fun bytes decoded => Outcome.bind_congr fun pair found => ?_
  have agree := agree bytes (Outcome.elim_eq_ok_iff.mp decoded)
  simp only [Es256.attests_iff, Outcome.elim_eq_ok_iff.mp found, Option.some.injEq,
    exists_eq_left'] at agree
  simp only [agree]

namespace TrustAnchor

variable {α β : Type} {anchor : TrustAnchor} {instant : Instant} {text other : String}
  {target : Target α} {failure : Failure}

theorem isVerified_iff : anchor.IsVerified instant text ↔
    ∃ token, anchor.verdict text instant = .ok token := by
  refine ⟨?_, ?_⟩
  · rintro ⟨payload, ⟨evidence⟩⟩
    exact ⟨⟨evidence.header, payload, evidence.signature⟩, verdict_eq_ok_iff.mpr
      ⟨CompactToken.parse_eq_ok_iff_splitOn.mpr evidence.split, ⟨evidence⟩⟩⟩
  · rintro ⟨token, found⟩
    exact ⟨token.payload, (verdict_eq_ok_iff.mp found).2⟩

/-- **A verdict fails with nothing but failures of trust.** -/
theorem verdict_fails (failed : anchor.verdict text instant = .error failure) :
    failure.isTrustFailure = true := by
  -- How the payload would be read does not matter to the stages of a verdict.
  have reports : Reports (anchor.Fails Tree.decode text instant) _ (anchor.verdict text instant) :=
    reports_verdict
  obtain ⟨stage, member, failing⟩ := ((reports failure).mp failed).exists_mem
  refine Failure.isTrustFailure_iff.mpr ⟨stage.cause, failing.cause, ?_⟩
  clear failing
  revert stage
  decide

/-- **Texts that differ in their payload alone** have the same verdict, unless the signature tells them
apart. -/
theorem Alike.verdict_eq_error_iff {token token' : CompactToken}
    (alike : anchor.Alike instant text other token token') :
    anchor.verdict text instant = .error failure ↔
      anchor.verdict other instant = .error failure := by
  have parsed := CompactToken.parse_eq_ok_iff_splitOn.mpr alike.split
  have parsed' := CompactToken.parse_eq_ok_iff_splitOn.mpr alike.split'
  have headers := CompactToken.readHeader_congr alike.header
  simp only [verdict, bind, Except.bind, parsed, parsed', ← headers]
  cases read : token.readHeader with
  | error refused => exact Iff.rfl
  | ok fields =>
    obtain ⟨bytes, spelled, decoded⟩ := CompactToken.readHeader_eq_ok_iff.mp read
    have held : HasHeader text fields := ⟨token, bytes, alike.split, spelled, decoded⟩
    dsimp only
    cases vouched : verifyHeader anchor fields instant with
    | error refused => exact Iff.rfl
    | ok key =>
      have signatures : token.checkSignature key = token'.checkSignature key :=
        CompactToken.checkSignature_congr alike.signature
          fun bytes => alike.attested fields key bytes held vouched
      dsimp only
      rw [signatures]
      cases fields.checkAlgorithm with
      | error refused => exact Iff.rfl
      | ok _ =>
        dsimp only
        cases token'.checkSignature key with
        | error refused => exact Iff.rfl
        | ok _ =>
          refine ⟨?_, ?_⟩
          · intro accepted
            cases accepted
          · intro accepted
            cases accepted

/-! ### Openings -/

theorem openTarget_eq_bind (target : Target α) :
    anchor.openTarget target text instant =
      anchor.verdict text instant >>= fun token => token.payloadBytes >>= target.read := by
  cases target with
  | tree =>
    rw [openTarget, openTree, openWith, verifiedPayload_eq_bind, bind_assoc]
    rfl
  | shaped shape =>
    rw [openTarget, openAs, openWith, verifiedPayload_eq_bind, bind_assoc]
    rfl
  | told =>
    rw [openTarget, openRecord, openTree, openWith, verifiedPayload_eq_bind, bind_assoc, bind_assoc]
    rfl

/-- **What an opening reports**: the failure of the verdict, or that of the payload after it. -/
theorem openTarget_eq_error_iff :
    anchor.openTarget target text instant = .error failure ↔
      anchor.verdict text instant = .error failure ∨ ∃ token, anchor.verdict text instant = .ok token ∧
        (token.payloadBytes >>= target.read) = .error failure := by
  rw [openTarget_eq_bind, Outcome.bind_eq_error_iff]

/-- What is reported after the verdict is a failure of the payload. -/
theorem payload_fails {token : CompactToken}
    (failed : (token.payloadBytes >>= target.read) = .error failure) :
    ∃ reason, failure = .undecodedPayload reason := by
  rcases Outcome.bind_eq_error_iff.mp failed with undecoded | ⟨payload, _, unread⟩
  · exact CompactToken.payloadBytes_fails undecoded
  · exact Target.read_fails unread

theorem openTarget_eq_error_iff_verdict (trust : failure.isTrustFailure = true) :
    anchor.openTarget target text instant = .error failure ↔
      anchor.verdict text instant = .error failure := by
  rw [openTarget_eq_error_iff]
  refine ⟨?_, .inl⟩
  rintro (failed | ⟨token, _, failed⟩)
  · exact failed
  · obtain ⟨reason, rfl⟩ := payload_fails failed
    cases trust

/-- A transaction is one of the targets. -/
theorem openTransaction_eq_openTarget :
    anchor.openTransaction text instant =
      anchor.openTarget (.shaped Transaction.shape) text instant := rfl

/-- **Any two targets agree** on the failures of trust. -/
theorem openTarget_eq_error_iff_openTarget {another : Target β}
    (trust : failure.isTrustFailure = true) :
    anchor.openTarget target text instant = .error failure ↔
      anchor.openTarget another text instant = .error failure := by
  rw [openTarget_eq_error_iff_verdict trust, openTarget_eq_error_iff_verdict trust]

/-- **A failure of any other kind** is one of the payload, and the text is verified. -/
theorem isVerified_of_openTarget (failed : anchor.openTarget target text instant = .error failure)
    (other : failure.isTrustFailure = false) :
    (∃ reason, failure = .undecodedPayload reason) ∧ anchor.IsVerified instant text := by
  rcases openTarget_eq_error_iff.mp failed with refused | ⟨token, found, failed⟩
  · rw [verdict_fails refused] at other
    cases other
  · exact ⟨payload_fails failed, isVerified_iff.mpr ⟨token, found⟩⟩

/-- A verified text gives no failure of trust. -/
theorem not_trust_of_isVerified (verified : anchor.IsVerified instant text)
    (failed : anchor.openTarget target text instant = .error failure) :
    failure.isTrustFailure = false := by
  obtain ⟨token, found⟩ := isVerified_iff.mp verified
  rcases openTarget_eq_error_iff.mp failed with refused | ⟨_, _, failed⟩
  · cases found.symm.trans refused
  · obtain ⟨reason, rfl⟩ := payload_fails failed
    rfl

theorem isTrustFailure_iff_of_openTarget
    (failed : anchor.openTarget target text instant = .error failure) :
    failure.isTrustFailure = true ↔ ¬ anchor.IsVerified instant text := by
  refine ⟨?_, ?_⟩
  · intro trust verified
    rw [not_trust_of_isVerified verified failed] at trust
    cases trust
  · intro unverified
    by_contra other
    exact unverified (isVerified_of_openTarget failed (Bool.eq_false_iff.mpr other)).2

/-! ### Several texts -/

/-- Something holds of the first of some texts that gives no transaction. -/
def RefusedAmong (anchor : TrustAnchor) (texts : List String) (instant : Instant)
    (refused : String → Prop) : Prop :=
  ∃ front culprit back, texts = front ++ culprit :: back ∧
    (∀ earlier ∈ front, ∃ record, anchor.openTransaction earlier instant = .ok record) ∧
    refused culprit

/-- Something holds of the first text that is refused, and of what it is opened as: that of a
notification, or those of the transaction and of the renewal information that it carries. -/
def RefusedWithin (anchor : TrustAnchor) (text : String) (instant : Instant)
    (refused : {γ : Type} → Target γ → String → Prop) : Prop :=
  refused (.shaped Notification.shape) text ∨
    ∃ payload, anchor.openNotification text instant = .ok payload ∧
      ((∃ inner, payload.data.bind (·.signedTransactionInfo) = some inner ∧
          refused (.shaped Transaction.shape) inner) ∨
        (∃ transaction, openMaybe (anchor.openTransaction · instant)
          (payload.data.bind (·.signedTransactionInfo)) = .ok transaction) ∧
        ∃ inner, payload.data.bind (·.signedRenewalInfo) = some inner ∧
          refused (.shaped RenewalInfo.shape) inner)

variable {texts : List String}

theorem RefusedAmong.imp {refused blamed : String → Prop}
    (among : anchor.RefusedAmong texts instant refused) (imp : ∀ inner, refused inner → blamed inner) :
    anchor.RefusedAmong texts instant blamed := by
  obtain ⟨front, culprit, back, split, well, here⟩ := among
  exact ⟨front, culprit, back, split, well, imp culprit here⟩

theorem RefusedAmong.exists {refused : String → Prop}
    (among : anchor.RefusedAmong texts instant refused) : ∃ inner, refused inner := by
  obtain ⟨_, culprit, _, _, _, here⟩ := among
  exact ⟨culprit, here⟩

theorem RefusedWithin.exists {refused : {γ : Type} → Target γ → String → Prop}
    (within : anchor.RefusedWithin text instant refused) :
    ∃ (γ : Type) (target : Target γ) (inner : String), refused target inner := by
  rcases within with outer | ⟨_, _, ⟨inner, _, here⟩ | ⟨_, inner, _, here⟩⟩
  · exact ⟨_, _, text, outer⟩
  · exact ⟨_, _, inner, here⟩
  · exact ⟨_, _, inner, here⟩

theorem RefusedWithin.imp {refused blamed : {γ : Type} → Target γ → String → Prop}
    (within : anchor.RefusedWithin text instant refused)
    (imp : ∀ {γ : Type} (target : Target γ) inner, refused target inner → blamed target inner) :
    anchor.RefusedWithin text instant blamed := by
  rcases within with outer | ⟨payload, opened, ⟨inner, found, here⟩ | ⟨well, inner, found, here⟩⟩
  · exact .inl (imp _ _ outer)
  · exact .inr ⟨payload, opened, .inl ⟨inner, found, imp _ _ here⟩⟩
  · exact .inr ⟨payload, opened, .inr ⟨well, inner, found, imp _ _ here⟩⟩

theorem openTransactions_eq_error_iff :
    anchor.openTransactions texts instant = .error failure ↔
      anchor.RefusedAmong texts instant
        fun inner => anchor.openTransaction inner instant = .error failure :=
  Outcome.mapM_eq_error_iff

theorem openMaybe_eq_error_iff {opening : String → Outcome α} {source : Option String} :
    openMaybe opening source = .error failure ↔
      ∃ inner, source = some inner ∧ opening inner = .error failure := by
  cases source with
  | none => simp only [openMaybe, reduceCtorEq, false_and, exists_false]
  | some inner => simp only [openMaybe, Outcome.map_eq_error_iff, Option.some.injEq, exists_eq_left']

theorem openNotificationWithRecords_eq_error_iff :
    anchor.openNotificationWithRecords text instant = .error failure ↔
      anchor.RefusedWithin text instant
        fun target inner => anchor.openTarget target inner instant = .error failure := by
  simp only [openNotificationWithRecords, Outcome.bind_eq_error_iff, openMaybe_eq_error_iff]
  refine or_congr Iff.rfl (exists_congr fun payload => and_congr Iff.rfl (or_congr Iff.rfl ?_))
  refine ⟨?_, ?_⟩
  · rintro ⟨transaction, well, failed | ⟨_, _, impossible⟩⟩
    · exact ⟨⟨transaction, well⟩, failed⟩
    · cases impossible
  · rintro ⟨⟨transaction, well⟩, failed⟩
    exact ⟨transaction, well, .inl failed⟩

/-! ### All of it -/

/-- **A failure of trust is reported whatever a text is opened as, and says that it is not verified.**
Any two targets agree on the failures of trust. Whatever is reported for a text is a failure of trust
exactly when the text is not verified, and a failure of its payload otherwise. Of two texts that differ
in their payload alone, over which the signature holds in both or in neither, both are refused with the
same failure of trust or none is. Where several texts are opened, all of this holds of the one that is
refused. -/
theorem trust_failures_exact (anchor : TrustAnchor) (instant : Instant) :
    (∀ {α β : Type} (target : Target α) (another : Target β) (text : String) (failure : Failure),
      failure.isTrustFailure = true →
        (anchor.openTarget target text instant = .error failure ↔
          anchor.openTarget another text instant = .error failure)) ∧
    (∀ {α : Type} (target : Target α) (text : String) (failure : Failure),
      anchor.openTarget target text instant = .error failure →
        (failure.isTrustFailure = true ↔ ¬ anchor.IsVerified instant text) ∧
        (failure.isTrustFailure = false → ∃ reason, failure = .undecodedPayload reason)) ∧
    (∀ {α β : Type} (target : Target α) (another : Target β) (text other : String)
        (token token' : CompactToken) (failure : Failure),
      anchor.Alike instant text other token token' → failure.isTrustFailure = true →
        (anchor.openTarget target text instant = .error failure ↔
          anchor.openTarget another other instant = .error failure)) ∧
    (∀ {β : Type} (another : Target β) (texts : List String) (failure : Failure),
      failure.isTrustFailure = true →
        (anchor.openTransactions texts instant = .error failure ↔
          anchor.RefusedAmong texts instant
            fun inner => anchor.openTarget another inner instant = .error failure)) ∧
    (∀ (texts : List String) (failure : Failure),
      anchor.openTransactions texts instant = .error failure → failure.isTrustFailure = false →
        (∃ reason, failure = .undecodedPayload reason) ∧
        anchor.RefusedAmong texts instant
          fun inner => anchor.openTransaction inner instant = .error failure ∧
            anchor.IsVerified instant inner) ∧
    (∀ {β : Type} (another : Target β) (text : String) (failure : Failure),
      failure.isTrustFailure = true →
        (anchor.openNotificationWithRecords text instant = .error failure ↔
          anchor.RefusedWithin text instant
            fun _ inner => anchor.openTarget another inner instant = .error failure)) ∧
    ∀ (text : String) (failure : Failure),
      anchor.openNotificationWithRecords text instant = .error failure →
        failure.isTrustFailure = false →
        (∃ reason, failure = .undecodedPayload reason) ∧
        anchor.RefusedWithin text instant
          fun target inner => anchor.openTarget target inner instant = .error failure ∧
            anchor.IsVerified instant inner := by
  refine ⟨?_, ?_, ?_, ?_, ?_, ?_, ?_⟩
  · intro α β target another text failure trust
    exact openTarget_eq_error_iff_openTarget trust
  · intro α target text failure failed
    exact ⟨isTrustFailure_iff_of_openTarget failed,
      fun other => (isVerified_of_openTarget failed other).1⟩
  · intro α β target another text other token token' failure alike trust
    rw [openTarget_eq_error_iff_verdict trust, openTarget_eq_error_iff_verdict trust,
      alike.verdict_eq_error_iff]
  · intro β another texts failure trust
    rw [openTransactions_eq_error_iff]
    refine ⟨fun among => among.imp ?_, fun among => among.imp ?_⟩
    · intro inner
      rw [openTransaction_eq_openTarget]
      exact (openTarget_eq_error_iff_openTarget trust).mp
    · intro inner
      rw [openTransaction_eq_openTarget]
      exact (openTarget_eq_error_iff_openTarget trust).mpr
  · intro texts failure failed other
    have among := openTransactions_eq_error_iff.mp failed
    have verified : ∀ inner, anchor.openTransaction inner instant = .error failure →
        (∃ reason, failure = .undecodedPayload reason) ∧ anchor.IsVerified instant inner :=
      fun inner refused =>
        isVerified_of_openTarget (openTransaction_eq_openTarget.symm.trans refused) other
    obtain ⟨inner, refused⟩ := among.exists
    exact ⟨(verified inner refused).1,
      among.imp fun inner refused => ⟨refused, (verified inner refused).2⟩⟩
  · intro β another text failure trust
    rw [openNotificationWithRecords_eq_error_iff]
    refine ⟨fun within => within.imp ?_, fun within => within.imp ?_⟩
    · exact fun target inner => (openTarget_eq_error_iff_openTarget trust).mp
    · exact fun target inner => (openTarget_eq_error_iff_openTarget trust).mpr
  · intro text failure failed other
    have within := openNotificationWithRecords_eq_error_iff.mp failed
    obtain ⟨_, _, inner, refused⟩ := within.exists
    exact ⟨(isVerified_of_openTarget refused other).1,
      within.imp fun target inner refused => ⟨refused, (isVerified_of_openTarget refused other).2⟩⟩

end TrustAnchor

/-! ### A verified token of no known shape -/

namespace Lettered

/-- The signature by the key of the base point of a token with the header and an empty object. -/
def mark : Bytes :=
  Bytes.ofNat 32 Curve.p256.base.x ++
    Bytes.ofNat 32 0x0a5b93ab7bfe2e70730af6464ecd1d29838a407c27f6fe0b9099a67530726c2c

/-- The token with that payload and that signature. -/
def bare : CompactToken := .written header.algorithm header.certificates [0x7B, 0x7D] mark

theorem mark_attests : Es256.Attests Curve.p256.base (Utf8.encode bare.signingInput) mark where
  width := by decide
  first := by decide +kernel
  second := by decide +kernel
  verifies := by
    rw [Digest.sha256_eq_foldl, CompactToken.signingInput_eq, Utf8.encode_ofList]
    simp only [bare, CompactToken.written, CompactToken.headerTree, header, entry, Base64.encode,
      Tree.write, Tree.writeMembers, Tree.writeItems, List.map_cons, List.map_nil, Tree.writeText,
      Utf8.encode_ofList]
    decide +kernel

/-- A token with the header is verified when its signature holds under the key of the base point. -/
theorem verdict_written {payload mark : Bytes}
    (attests : Es256.Attests Curve.p256.base (Utf8.encode
      (CompactToken.written header.algorithm header.certificates payload mark).signingInput) mark) :
    anchor.verdict (CompactToken.written header.algorithm header.certificates payload mark).text ⟨0⟩ =
      .ok (.written header.algorithm header.certificates payload mark) := by
  simp only [TrustAnchor.verdict, Outcome.bind_eq_ok_iff]
  exact ⟨_, CompactToken.parse_written _ _ _ _, header, CompactToken.readHeader_written _ _ _ _,
    Curve.p256.base, verified, (), rfl, (),
    CompactToken.checkSignature_eq_ok_iff.mpr ⟨mark, Base64.decode?_symbols _ _, attests⟩, rfl⟩

/-- Such a token is opened as what its payload is read as. -/
theorem openTarget_written {α : Type} {payload mark : Bytes}
    (attests : Es256.Attests Curve.p256.base (Utf8.encode
      (CompactToken.written header.algorithm header.certificates payload mark).signingInput) mark)
    (target : Target α) :
    anchor.openTarget target
        (CompactToken.written header.algorithm header.certificates payload mark).text ⟨0⟩ =
      target.read payload := by
  have decoded : (CompactToken.written header.algorithm header.certificates payload mark).payloadBytes =
      .ok payload := CompactToken.payloadBytes_eq_ok_iff.mpr (Base64.decode?_symbols _ _)
  rw [TrustAnchor.openTarget_eq_bind, verdict_written attests]
  exact congrArg (· >>= target.read) decoded

theorem openTarget_bare {α : Type} (target : Target α) :
    anchor.openTarget target bare.text ⟨0⟩ = target.read [0x7B, 0x7D] :=
  openTarget_written mark_attests target

end Lettered

namespace Specimen

/-- A text like the torn one, but for its payload. -/
def patchedText : String := "e30.e30.!"

theorem verdict_torn :
    Lettered.anchor.verdict tornText ⟨0⟩ = .error (.missingCertificates 0) := by
  decide +kernel

/-- The two texts differ in their payloads alone. No certificate vouches for a key here, so no signature
can hold. -/
theorem torn_alike : Lettered.anchor.Alike ⟨0⟩ tornText patchedText
    ⟨"e30".toList, ['!'], ['!']⟩ ⟨"e30".toList, "e30".toList, ['!']⟩ where
  split := by
    unfold HasSegments
    decide
  split' := by
    unfold HasSegments
    decide
  header := rfl
  signature := rfl
  attested := by
    intro fields key bytes held vouched decoded
    cases decoded

/-- **A torn text is not to be trusted, a verified one of no known shape is.** -/
theorem torn_and_bare :
    (Lettered.anchor.openRecord tornText ⟨0⟩ = .error (.missingCertificates 0) ∧
      ¬ Lettered.anchor.IsVerified ⟨0⟩ tornText ∧
      Lettered.anchor.openRecord patchedText ⟨0⟩ = .error (.missingCertificates 0) ∧
      Lettered.anchor.openTransactions [tornText] ⟨0⟩ = .error (.missingCertificates 0) ∧
      Lettered.anchor.openNotificationWithRecords tornText ⟨0⟩ =
        .error (.missingCertificates 0)) ∧
    Lettered.anchor.IsVerified ⟨0⟩ Lettered.bare.text ∧
    (∃ reason, Lettered.anchor.openTransactions [Lettered.bare.text] ⟨0⟩ =
        .error (.undecodedPayload reason) ∧
      Lettered.anchor.RefusedAmong [Lettered.bare.text] ⟨0⟩ fun inner =>
        Lettered.anchor.openTransaction inner ⟨0⟩ = .error (.undecodedPayload reason) ∧
          Lettered.anchor.IsVerified ⟨0⟩ inner) ∧
    ∃ reason, Lettered.anchor.openNotificationWithRecords Lettered.bare.text ⟨0⟩ =
        .error (.undecodedPayload reason) ∧
      Lettered.anchor.RefusedWithin Lettered.bare.text ⟨0⟩ fun target inner =>
        Lettered.anchor.openTarget target inner ⟨0⟩ = .error (.undecodedPayload reason) ∧
          Lettered.anchor.IsVerified ⟨0⟩ inner := by
  obtain ⟨agree, exact, alike, among, amongOther, within, withinOther⟩ :=
    TrustAnchor.trust_failures_exact Lettered.anchor ⟨0⟩
  have torn : Lettered.anchor.openTarget .tree tornText ⟨0⟩ = .error (.missingCertificates 0) :=
    (TrustAnchor.openTarget_eq_error_iff_verdict rfl).mpr verdict_torn
  have told : Lettered.anchor.openTarget .told tornText ⟨0⟩ = .error (.missingCertificates 0) :=
    (agree .tree .told tornText _ rfl).mp torn
  obtain ⟨reason, unread⟩ : ∃ reason, Target.read (.shaped Transaction.shape) [0x7B, 0x7D] =
    .error (.undecodedPayload reason) := ⟨_, rfl⟩
  obtain ⟨other, unseen⟩ : ∃ reason, Target.read (.shaped Notification.shape) [0x7B, 0x7D] =
    .error (.undecodedPayload reason) := ⟨_, rfl⟩
  have refused := (Lettered.openTarget_bare (.shaped Transaction.shape)).trans unread
  have unopened := (Lettered.openTarget_bare (.shaped Notification.shape)).trans unseen
  have listed : Lettered.anchor.openTransactions [Lettered.bare.text] ⟨0⟩ =
      .error (.undecodedPayload reason) :=
    TrustAnchor.openTransactions_eq_error_iff.mpr ⟨[], _, [], rfl, nofun, refused⟩
  have noticed : Lettered.anchor.openNotificationWithRecords Lettered.bare.text ⟨0⟩ =
      .error (.undecodedPayload other) :=
    TrustAnchor.openNotificationWithRecords_eq_error_iff.mpr (.inl unopened)
  refine ⟨⟨told, ?_, ?_, ?_, ?_⟩, ?_, ⟨reason, listed, ?_⟩, ⟨other, noticed, ?_⟩⟩
  · exact (exact .tree tornText _ torn).1.mp rfl
  · exact (alike .tree .told tornText patchedText _ _ _ torn_alike rfl).mp torn
  · exact (among .tree [tornText] _ rfl).mpr ⟨[], tornText, [], rfl, nofun, torn⟩
  · exact (within .tree tornText _ rfl).mpr (.inl torn)
  · by_contra unverified
    cases (exact _ _ _ refused).1.mpr unverified
  · exact (amongOther _ _ listed rfl).2
  · exact (withinOther _ _ noticed rfl).2

end Specimen

end SignedPurchase
