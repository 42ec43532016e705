import SignedPurchase.Proofs.Text.Spelling
import SignedPurchase.Proofs.Trust.Verdict

/-
**Tokens that are spelt anew.**

A segment may leave out some or all of the padding after it, and nothing else about it is free. What is
done with a segment is done with its bytes, save that the header and the payload are signed as they are
spelt. So a token whose signature is spelt anew is opened as before.

* `CompactToken.Carries` says which bytes a segment carries, `CompactToken.segmentBytes?_eq_some_iff` that
  these are the ones it is decoded to;
* `CompactToken.Respelt` changes the spelling of a signature, `TrustAnchor.verifiedPayload_respelt` shows
  that the payload is verified as before;
* `spellings_exact` puts this together for headers, payloads, signatures and certificates.
-/

namespace SignedPurchase

open Base64 (IsSpelling IsMisspelt fillingOf)

section Reading

variable {segment : List Char} {bytes : Bytes} {text other : String} {token : CompactToken}
  {anchor : TrustAnchor} {instant : Instant} {index : Nat} {entry : String}

/-! ### Segments -/

namespace CompactToken

/-- A segment carries bytes: it is their spelling in the alphabet for addresses, and after it at most as
much padding as fills it up. -/
def Carries (segment : List Char) (bytes : Bytes) : Prop :=
  ∃ plain filling, IsSpelling .urlSafe plain bytes ∧ filling ≤ fillingOf plain.length ∧
    segment = plain ++ List.replicate filling '='

theorem segmentBytes?_eq_some_iff : segmentBytes? segment = some bytes ↔ Carries segment bytes :=
  Base64.decode?_indifferent_eq_some_iff

theorem segmentBytes?_eq_none_iff :
    segmentBytes? segment = none ↔ IsMisspelt .urlSafe .indifferent segment :=
  Base64.decode?_eq_none_iff

/-- What carries bytes has no dot in it. -/
theorem Carries.undotted (carries : Carries segment bytes) : '.' ∉ segment := by
  obtain ⟨plain, filling, spelling, _, rfl⟩ := carries
  obtain rfl := Base64.isSpelling_iff.mp spelling
  intro member
  rcases List.mem_append.mp member with member | member
  · exact undotted_symbols bytes member
  · cases List.eq_of_mem_replicate member

theorem Carries.unique {bytes' : Bytes} (carries : Carries segment bytes)
    (others : Carries segment bytes') : bytes = bytes' :=
  Option.some.inj ((segmentBytes?_eq_some_iff.mpr carries).symm.trans
    (segmentBytes?_eq_some_iff.mpr others))

/-- Bytes are carried by their spelling with any of its padding. -/
theorem carries_symbols (bytes : Bytes) {filling : Nat}
    (room : filling ≤ fillingOf (Base64.symbols .urlSafe bytes).length) :
    Carries (Base64.symbols .urlSafe bytes ++ List.replicate filling '=') bytes :=
  ⟨_, filling, Base64.isSpelling_iff.mpr rfl, room, rfl⟩

theorem signatureBytes_eq_ok_iff :
    token.signatureBytes = .ok bytes ↔ segmentBytes? token.signature = some bytes := by
  rw [signatureBytes]
  cases segmentBytes? token.signature with
  | none => simp only [reduceCtorEq]
  | some found => simp only [Except.ok.injEq, Option.some.injEq]

/-! ### Segments that are refused -/

/-- What is said of a header that is misspelt is said of no other. -/
theorem readHeader_eq_error_iff :
    token.readHeader = .error (.malformedHeader "invalid base64url") ↔
      segmentBytes? token.header = none := by
  rw [readHeader, headerBytes?]
  cases segmentBytes? token.header with
  | none => simp only
  | some bytes =>
    have other : ∀ reason : String, "invalid JSON: " ++ reason ≠ "invalid base64url" := by
      intro reason same
      have start := congrArg (·.toList.take 9) same
      simp at start
    cases decoded : Header.shape.decode bytes with
    | ok header => simp only [decoded, reduceCtorEq]
    | error fault =>
      simp only [decoded, Except.error.injEq, Failure.malformedHeader.injEq, other, reduceCtorEq]

theorem payloadBytes_eq_error_iff :
    token.payloadBytes = .error (.undecodedPayload "invalid base64url payload") ↔
      segmentBytes? token.payload = none := by
  rw [payloadBytes]
  cases segmentBytes? token.payload with
  | none => simp only
  | some bytes => simp only [reduceCtorEq]

theorem signatureBytes_eq_error_iff :
    token.signatureBytes = .error (.invalidSignature "invalid base64url signature") ↔
      segmentBytes? token.signature = none := by
  rw [signatureBytes]
  cases segmentBytes? token.signature with
  | none => simp only
  | some bytes => simp only [reduceCtorEq]

/-! ### Signatures that are spelt anew -/

/-- A text is a token whose signature carries bytes, and another is the same token with another segment
that carries them. -/
def Respelt (text other : String) : Prop :=
  ∃ token segment bytes, parse text = .ok token ∧ Carries token.signature bytes ∧
    Carries segment bytes ∧ other = { token with signature := segment }.text

/-- A token with another signature is a token. -/
theorem parse_respelt (parsed : parse text = .ok token) (carries : Carries segment bytes) :
    parse { token with signature := segment }.text = .ok { token with signature := segment } := by
  obtain ⟨_, header, payload, _⟩ := parse_eq_ok_iff.mp parsed
  exact parse_eq_ok_iff.mpr ⟨rfl, header, payload, carries.undotted⟩

theorem checkSignature_respelt (same : segmentBytes? token.signature = segmentBytes? segment)
    (key : Point) :
    { token with signature := segment }.checkSignature key = token.checkSignature key := by
  have covered : { token with signature := segment }.signingInput = token.signingInput := by
    rw [signingInput_eq, signingInput_eq]
  rw [checkSignature, checkSignature, signatureBytes, signatureBytes, same, covered]

end CompactToken

namespace TrustAnchor

open CompactToken

/-- What is asked of a token once the text is split. -/
theorem verifiedPayload_of_parse (parsed : parse text = .ok token) :
    anchor.verifiedPayload text instant = (do
      let header ← token.readHeader
      let key ← verifyHeader anchor header instant
      header.checkAlgorithm
      token.checkSignature key
      token.payloadBytes) := by
  rw [verifiedPayload, parsed]
  rfl

/-- **A token whose signature is spelt anew is verified as before**, or refused as before. -/
theorem verifiedPayload_respelt (anchor : TrustAnchor) (instant : Instant)
    (respelt : Respelt text other) :
    anchor.verifiedPayload other instant = anchor.verifiedPayload text instant := by
  obtain ⟨token, segment, bytes, parsed, carried, carries, rfl⟩ := respelt
  have same : segmentBytes? token.signature = segmentBytes? segment :=
    (segmentBytes?_eq_some_iff.mpr carried).trans (segmentBytes?_eq_some_iff.mpr carries).symm
  rw [verifiedPayload_of_parse (parse_respelt parsed carries), verifiedPayload_of_parse parsed]
  simp only [checkSignature_respelt same]
  -- The header and the payload are the same segments.
  rfl

theorem openTarget_respelt {α : Type} (anchor : TrustAnchor) (target : Target α) (instant : Instant)
    (respelt : Respelt text other) :
    anchor.openTarget target other instant = anchor.openTarget target text instant := by
  have same := verifiedPayload_respelt anchor instant respelt
  cases target with
  | tree => rw [openTarget, openTarget, openTree, openTree, openWith, openWith, same]
  | shaped shape => rw [openTarget, openTarget, openAs, openAs, openWith, openWith, same]
  | told =>
    rw [openTarget, openTarget, openRecord, openRecord, openTree, openTree, openWith, openWith, same]

theorem openNotificationWithRecords_respelt (anchor : TrustAnchor) (instant : Instant)
    (respelt : Respelt text other) :
    anchor.openNotificationWithRecords other instant =
      anchor.openNotificationWithRecords text instant := by
  have same : anchor.openNotification other instant = anchor.openNotification text instant :=
    openTarget_respelt anchor (.shaped Notification.shape) instant respelt
  rw [openNotificationWithRecords, openNotificationWithRecords, same]

/-- Of several tokens any can be spelt anew. -/
theorem openTransactions_respelt {texts others : List String} (anchor : TrustAnchor)
    (instant : Instant)
    (respelt : List.Forall₂ (fun text other => other = text ∨ Respelt text other) texts others) :
    anchor.openTransactions others instant = anchor.openTransactions texts instant := by
  rw [openTransactions, openTransactions]
  induction respelt with
  | nil => rfl
  | @cons text other _ _ here _ ih =>
    have same : anchor.openTransaction other instant = anchor.openTransaction text instant := by
      rcases here with rfl | here
      · rfl
      · exact openTarget_respelt anchor (.shaped Transaction.shape) instant here
    rw [List.mapM_cons, List.mapM_cons, ih, same]

end TrustAnchor

theorem verifyToken_respelt (anchor : TrustAnchor) (instant : Instant)
    (respelt : CompactToken.Respelt text other) :
    verifyToken anchor other instant = verifyToken anchor text instant := by
  obtain ⟨token, segment, bytes, parsed, _, carries, rfl⟩ := respelt
  rw [verifyToken, verifyToken, CompactToken.parse_respelt parsed carries, parsed]
  rfl

/-! ### Certificates -/

/-- What a certificate is spelt as where padding is required. -/
theorem existsUnique_entry (bytes : Bytes) :
    ∃! entry : String, Base64.decode? .standard .required entry.toList = some bytes := by
  refine ⟨Base64.encode .standard .required bytes, Base64.decode?_encode .standard bytes, ?_⟩
  intro entry decoded
  obtain ⟨plain, spelling, same⟩ := Base64.decode?_required_eq_some_iff.mp decoded
  obtain rfl := Base64.isSpelling_iff.mp spelling
  rw [← String.ofList_toList (s := entry), same, Base64.encode]

theorem readCertificate_eq_error_iff :
    readCertificate index entry = .error (.unreadableCertificate index "invalid base64") ↔
      Base64.decode? .standard .required entry.toList = none := by
  rw [readCertificate]
  cases Base64.decode? .standard .required entry.toList with
  | none => simp only
  | some bytes =>
    cases given : Presented.ofBytes? bytes with
    | none =>
      have other : "invalid certificate" ≠ "invalid base64" := by decide
      simp only [given, Except.error.injEq, Failure.unreadableCertificate.injEq, other, and_false,
        reduceCtorEq]
    | some certificate => simp only [given, reduceCtorEq]

end Reading

/-! ### All of it -/

/-- **What a segment carries, and how it may be spelt.** A header, a payload or a signature is decoded
to the bytes that it carries, and is refused when it is misspelt. All bytes are carried, by their one
spelling in the alphabet for addresses, with or without the padding that fills it up, and no other bytes
are carried by the same segment. A token whose signature is spelt anew is opened as before, whatever it
is opened as, and a header that is spelt anew is read as before. A certificate has a single spelling, in
the standard alphabet and with all of its padding. -/
theorem spellings_exact :
    ((List.range 64).map Base64.Alphabet.urlSafe.char =
        "ABCDEFGHIJKLMNOPQRSTUVWXYZabcdefghijklmnopqrstuvwxyz0123456789-_".toList ∧
      (List.range 64).map Base64.Alphabet.standard.char =
        "ABCDEFGHIJKLMNOPQRSTUVWXYZabcdefghijklmnopqrstuvwxyz0123456789+/".toList) ∧
    (∀ (token : CompactToken) (bytes : Bytes),
      (token.headerBytes? = some bytes ↔ CompactToken.Carries token.header bytes) ∧
      (token.payloadBytes = .ok bytes ↔ CompactToken.Carries token.payload bytes) ∧
      (token.signatureBytes = .ok bytes ↔ CompactToken.Carries token.signature bytes)) ∧
    (∀ token : CompactToken,
      (token.readHeader = .error (.malformedHeader "invalid base64url") ↔
        IsMisspelt .urlSafe .indifferent token.header) ∧
      (token.payloadBytes = .error (.undecodedPayload "invalid base64url payload") ↔
        IsMisspelt .urlSafe .indifferent token.payload) ∧
      (token.signatureBytes = .error (.invalidSignature "invalid base64url signature") ↔
        IsMisspelt .urlSafe .indifferent token.signature)) ∧
    (∀ bytes, ∃! plain, IsSpelling .urlSafe plain bytes ∧ CompactToken.Carries plain bytes ∧
      CompactToken.Carries (plain ++ List.replicate (fillingOf plain.length) '=') bytes) ∧
    (∀ segment bytes bytes', CompactToken.Carries segment bytes →
      CompactToken.Carries segment bytes' → bytes = bytes') ∧
    (∀ token segment bytes text, CompactToken.parse text = .ok token →
      CompactToken.Carries token.signature bytes → CompactToken.Carries segment bytes →
        CompactToken.parse { token with signature := segment }.text =
            .ok { token with signature := segment } ∧
          CompactToken.Respelt text { token with signature := segment }.text) ∧
    (∀ (anchor : TrustAnchor) (instant : Instant) (text other : String),
      CompactToken.Respelt text other →
        (∀ {α : Type} (target : Target α),
          anchor.openTarget target other instant = anchor.openTarget target text instant) ∧
        anchor.openNotificationWithRecords other instant =
          anchor.openNotificationWithRecords text instant ∧
        verifyToken anchor other instant = verifyToken anchor text instant) ∧
    (∀ (anchor : TrustAnchor) (instant : Instant) (texts others : List String),
      List.Forall₂ (fun text other => other = text ∨ CompactToken.Respelt text other) texts others →
        anchor.openTransactions others instant = anchor.openTransactions texts instant) ∧
    (∀ (token : CompactToken) (segment : List Char) (bytes : Bytes),
      CompactToken.Carries token.header bytes → CompactToken.Carries segment bytes →
        CompactToken.readHeader { token with header := segment } = token.readHeader) ∧
    (∀ (index : Nat) (entry : String),
      (∀ certificate, readCertificate index entry = .ok certificate ↔
        ∃ plain, IsSpelling .standard plain certificate.bytes ∧
          entry.toList = plain ++ List.replicate (fillingOf plain.length) '=') ∧
      (readCertificate index entry = .error (.unreadableCertificate index "invalid base64") ↔
        IsMisspelt .standard .required entry.toList)) ∧
    (∀ bytes, ∃! entry : String, Base64.decode? .standard .required entry.toList = some bytes) := by
  refine ⟨⟨by decide, by decide⟩, fun token bytes => ?_, fun token => ?_, fun bytes => ?_,
    fun segment bytes bytes' => CompactToken.Carries.unique, ?_, ?_, ?_, ?_, fun index entry => ?_,
    existsUnique_entry⟩
  · simp only [← CompactToken.segmentBytes?_eq_some_iff]
    exact ⟨Iff.rfl, CompactToken.payloadBytes_eq_ok_iff, CompactToken.signatureBytes_eq_ok_iff⟩
  · simp only [← CompactToken.segmentBytes?_eq_none_iff]
    exact ⟨CompactToken.readHeader_eq_error_iff, CompactToken.payloadBytes_eq_error_iff,
      CompactToken.signatureBytes_eq_error_iff⟩
  · have bare := CompactToken.carries_symbols bytes (Nat.zero_le _)
    rw [List.replicate_zero, List.append_nil] at bare
    exact ⟨Base64.symbols .urlSafe bytes,
      ⟨Base64.isSpelling_iff.mpr rfl, bare, CompactToken.carries_symbols bytes le_rfl⟩,
      fun plain other => Base64.isSpelling_iff.mp other.1⟩
  · intro token segment bytes text parsed carried carries
    exact ⟨CompactToken.parse_respelt parsed carries,
      token, segment, bytes, parsed, carried, carries, rfl⟩
  · intro anchor instant text other respelt
    exact ⟨fun target => TrustAnchor.openTarget_respelt anchor target instant respelt,
      TrustAnchor.openNotificationWithRecords_respelt anchor instant respelt,
      verifyToken_respelt anchor instant respelt⟩
  · exact fun anchor instant texts others => TrustAnchor.openTransactions_respelt anchor instant
  · intro token segment bytes carried carries
    rw [CompactToken.readHeader, CompactToken.readHeader, CompactToken.headerBytes?,
      CompactToken.headerBytes?, CompactToken.segmentBytes?_eq_some_iff.mpr carried,
      CompactToken.segmentBytes?_eq_some_iff.mpr carries]
  · refine ⟨fun certificate => ?_, ?_⟩
    · exact readCertificate_eq_ok_iff.trans Base64.decode?_required_eq_some_iff
    · exact readCertificate_eq_error_iff.trans Base64.decode?_eq_none_iff

/-- A text with a part of its padding carries bytes, and is neither of the two spellings that one would
expect. -/
theorem Specimen.partly_padded : ¬ ∀ (segment : List Char) (bytes : Bytes),
    CompactToken.segmentBytes? segment = some bytes ↔ ∃ plain, IsSpelling .urlSafe plain bytes ∧
      (segment = plain ∨ segment = plain ++ List.replicate (fillingOf plain.length) '=') := by
  intro expected
  obtain ⟨plain, spelling, spelt⟩ := (expected "AA=".toList [0]).mp (by decide)
  obtain rfl : plain = "AA".toList := Base64.isSpelling_iff.mp spelling
  revert spelt
  decide

namespace Lettered

/-- The verified token with the padding that its signature leaves out. -/
def padded : CompactToken := { bare with signature := bare.signature ++ ['=', '='] }

/-- **A verified token is opened alike with and without the padding of its signature**, and `e30` is read
as the header that `e30=` is. -/
theorem padded_opened :
    (∀ {α : Type} (target : Target α),
      anchor.openTarget target padded.text ⟨0⟩ = target.read [0x7B, 0x7D]) ∧
    anchor.openNotificationWithRecords padded.text ⟨0⟩ =
      anchor.openNotificationWithRecords bare.text ⟨0⟩ ∧
    anchor.openTransactions [bare.text, padded.text] ⟨0⟩ =
      anchor.openTransactions [bare.text, bare.text] ⟨0⟩ ∧
    CompactToken.readHeader ⟨"e30=".toList, [], []⟩ = .ok ⟨"", none, []⟩ := by
  obtain ⟨_, _, _, _, _, respell, opened, listed, header, _⟩ := spellings_exact
  have carried : CompactToken.Carries bare.signature mark :=
    CompactToken.segmentBytes?_eq_some_iff.mp (Base64.decode?_symbols .urlSafe mark)
  have carries : CompactToken.Carries (bare.signature ++ List.replicate 2 '=') mark :=
    CompactToken.carries_symbols mark (by decide +kernel)
  have respelt := (respell bare _ mark bare.text (CompactToken.parse_written _ _ _ _) carried carries).2
  obtain ⟨single, several, _⟩ := opened anchor ⟨0⟩ _ _ respelt
  refine ⟨fun target => (single target).trans (openTarget_bare target), several, ?_, ?_⟩
  · exact listed anchor ⟨0⟩ _ _ (.cons (.inl rfl) (.cons (.inr respelt) .nil))
  · have short : CompactToken.Carries "e30".toList [0x7B, 0x7D] :=
      CompactToken.segmentBytes?_eq_some_iff.mp (by decide)
    have full : CompactToken.Carries "e30=".toList [0x7B, 0x7D] :=
      CompactToken.segmentBytes?_eq_some_iff.mp (by decide)
    exact (header ⟨"e30".toList, [], []⟩ _ _ short full).trans rfl

end Lettered

end SignedPurchase
