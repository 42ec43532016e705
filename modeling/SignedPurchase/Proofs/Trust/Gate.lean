import SignedPurchase.Client.Basic
import SignedPurchase.Proofs.Outcome
import SignedPurchase.Proofs.Token.Segments

/-
**The gate before payloads.**

Nothing of a token is shown unless its certificates, its algorithm and its signature were all found
good, and everything of it is shown then. The one way to a payload is `TrustAnchor.verifiedPayload`;
the openings differ in what they read from the payload, and some of them open several tokens.

* `TrustAnchor.Evidence` is all that speaks for a payload, in terms of the text alone;
* `TrustAnchor.verdict_eq_ok_iff` and `TrustAnchor.verifiedPayload_eq_ok_iff`: all is found good, and
  the gate opens, exactly when there is evidence;
* `TrustAnchor.opened_iff_shown`: what each opening gives is what a text with evidence spells.
-/

namespace SignedPurchase

open Json

/-! ### Signatures of tokens -/

/-- A signature of sixty-four bytes, with both of its scalars in range, verifies over a message. -/
structure Es256.Attests (key : Point) (message signature : Bytes) : Prop where
  width : signature.length = 64
  first : 0 < Bytes.toNat (signature.take 32) ∧
    Bytes.toNat (signature.take 32) < Curve.p256.order
  second : 0 < Bytes.toNat (signature.drop 32) ∧
    Bytes.toNat (signature.drop 32) < Curve.p256.order
  verifies : Ecdsa.verifies .p256 key (Digest.sha256 message)
    ⟨Bytes.toNat (signature.take 32), Bytes.toNat (signature.drop 32)⟩ = true

theorem Es256.pairOf?_eq_some_iff {signature : Bytes} {pair : Ecdsa.Pair} :
    Es256.pairOf? signature = some pair ↔
      signature.length = 64 ∧ pair.inRange .p256 = true ∧
        pair = ⟨Bytes.toNat (signature.take 32), Bytes.toNat (signature.drop 32)⟩ := by
  have width : Curve.p256.width = 32 := rfl
  rw [Es256.pairOf?, Ecdsa.Pair.ofBytes?, width]
  by_cases long : signature.length = 64
  · rw [if_pos long]
    show (if _ then _ else _) = _ ↔ _
    split
    · rename_i inRange
      refine ⟨?_, ?_⟩
      · intro found
        cases found
        exact ⟨long, inRange, rfl⟩
      · rintro ⟨_, _, rfl⟩
        rfl
    · rename_i outOfRange
      refine ⟨?_, ?_⟩
      · intro found
        cases found
      · rintro ⟨_, inRange, rfl⟩
        exact absurd inRange outOfRange
  · rw [if_neg long]
    refine ⟨?_, ?_⟩
    · intro found
      cases found
    · rintro ⟨fits, _⟩
      exact absurd fits long

/-- A signature is read and its pair verifies exactly when it attests the text. -/
theorem Es256.attests_iff {key : Point} {text : String} {signature : Bytes} :
    Es256.Attests key (Utf8.encode text) signature ↔
      ∃ pair, Es256.pairOf? signature = some pair ∧ Es256.verifies key text pair = true := by
  refine ⟨?_, ?_⟩
  · intro attested
    refine ⟨_, Es256.pairOf?_eq_some_iff.mpr ⟨attested.width, ?_, rfl⟩, attested.verifies⟩
    simp only [Ecdsa.Pair.inRange, attested.first, attested.second, decide_true, Bool.and_self]
  · rintro ⟨pair, found, verifies⟩
    obtain ⟨width, inRange, rfl⟩ := Es256.pairOf?_eq_some_iff.mp found
    simp only [Ecdsa.Pair.inRange, Bool.and_eq_true, decide_eq_true_eq] at inRange
    obtain ⟨⟨⟨firstLow, firstHigh⟩, secondLow⟩, secondHigh⟩ := inRange
    exact ⟨width, ⟨firstLow, firstHigh⟩, ⟨secondLow, secondHigh⟩, verifies⟩

/-! ### The steps to a payload -/

/-- The headers that a token has. -/
theorem CompactToken.readHeader_eq_ok_iff {token : CompactToken} {header : Header} :
    token.readHeader = .ok header ↔
      ∃ bytes, segmentBytes? token.header = some bytes ∧ Header.shape.decode bytes = .ok header := by
  rw [readHeader, headerBytes?]
  cases segmentBytes? token.header with
  | none => simp only [reduceCtorEq, false_and, exists_false]
  | some bytes =>
    simp only [Option.some.injEq, exists_eq_left']
    cases Header.shape.decode bytes with
    | error fault => simp only [reduceCtorEq]
    | ok found => simp only [Except.ok.injEq]

/-- The algorithm in use is named by its five letters. -/
theorem Header.checkAlgorithm_eq_ok_iff {header : Header} :
    header.checkAlgorithm = .ok () ↔ header.algorithm = "ES256" :=
  Outcome.require_eq_ok_iff

/-- The signature of a token is found good when its bytes attest the text before it. -/
theorem CompactToken.checkSignature_eq_ok_iff {token : CompactToken} {key : Point} :
    token.checkSignature key = .ok () ↔
      ∃ bytes, segmentBytes? token.signature = some bytes ∧
        Es256.Attests key (Utf8.encode token.signingInput) bytes := by
  rw [checkSignature, Outcome.bind_eq_ok_iff, signatureBytes]
  cases segmentBytes? token.signature with
  | none => simp only [reduceCtorEq, false_and, exists_false]
  | some bytes =>
    simp only [Except.ok.injEq, Option.some.injEq, exists_eq_left', Es256.attests_iff]
    cases Es256.pairOf? bytes with
    | none => simp only [reduceCtorEq, false_and, exists_false]
    | some pair =>
      simp only [Option.some.injEq, exists_eq_left']
      exact Outcome.require_eq_ok_iff

theorem CompactToken.payloadBytes_eq_ok_iff {token : CompactToken} {bytes : Bytes} :
    token.payloadBytes = .ok bytes ↔ segmentBytes? token.payload = some bytes := by
  rw [payloadBytes]
  cases segmentBytes? token.payload with
  | none => simp only [reduceCtorEq]
  | some found => simp only [Except.ok.injEq, Option.some.injEq]

theorem readPayload_eq_ok_iff {α : Type} {read : Except Fault α} {value : α} :
    readPayload read = .ok value ↔ read = .ok value := by
  cases read with
  | error fault => simp only [readPayload, reduceCtorEq]
  | ok found => simp only [readPayload, Except.ok.injEq]

namespace TrustAnchor

/-! ### Evidence -/

/-- All that speaks for a payload within a text at an instant. -/
structure Evidence (anchor : TrustAnchor) (instant : Instant) (text : String)
    (payload : List Char) where
  header : List Char
  signature : List Char
  /-- The text has three segments. -/
  split : text.toList.splitOn '.' = [header, payload, signature]
  headerBytes : Bytes
  headerSpelled : CompactToken.segmentBytes? header = some headerBytes
  fields : Header
  headerRead : Header.shape.decode headerBytes = .ok fields
  key : Point
  /-- The certificates lead to the anchor, and the leaf has the key. -/
  vouched : verifyHeader anchor fields instant = .ok key
  algorithm : fields.algorithm = "ES256"
  signatureBytes : Bytes
  signatureSpelled : CompactToken.segmentBytes? signature = some signatureBytes
  /-- The bytes of the text up to the dot before the signature. -/
  message : Bytes
  message_front : Utf8.encode text = message ++ 0x2E :: Utf8.encode (String.ofList signature)
  attested : Es256.Attests key message signatureBytes

/-- A value is what a reader makes of a payload for which a text has evidence. -/
def Shown {α : Type} (anchor : TrustAnchor) (instant : Instant) (read : Bytes → Except Fault α)
    (text : String) (value : α) : Prop :=
  ∃ payload bytes, Nonempty (Evidence anchor instant text payload) ∧
    CompactToken.segmentBytes? payload = some bytes ∧ read bytes = .ok value

/-- The token of a text for which all has been checked that is checked before the payload is looked
at. -/
def verdict (anchor : TrustAnchor) (text : String) (instant : Instant) : Outcome CompactToken := do
  let token ← CompactToken.parse text
  let header ← token.readHeader
  let key ← verifyHeader anchor header instant
  header.checkAlgorithm
  token.checkSignature key
  return token

variable {α : Type} {anchor : TrustAnchor} {text : String} {instant : Instant}

/-- The payload of a text is decoded when all else was found good. -/
theorem verifiedPayload_eq_bind :
    anchor.verifiedPayload text instant = anchor.verdict text instant >>= (·.payloadBytes) := by
  simp only [verdict, verifiedPayload, bind_assoc, pure_bind]

/-- **All is found good** exactly when there is evidence for the payload. -/
theorem verdict_eq_ok_iff {token : CompactToken} :
    anchor.verdict text instant = .ok token ↔
      CompactToken.parse text = .ok token ∧
        Nonempty (Evidence anchor instant text token.payload) := by
  simp only [verdict, Outcome.bind_eq_ok_iff]
  refine ⟨?_, ?_⟩
  · rintro ⟨token, parsed, fields, headerRead, key, vouched, _, named, _, signed, given⟩
    cases given
    obtain ⟨headerBytes, headerSpelled, headerRead⟩ :=
      CompactToken.readHeader_eq_ok_iff.mp headerRead
    obtain ⟨signatureBytes, signatureSpelled, attested⟩ :=
      CompactToken.checkSignature_eq_ok_iff.mp signed
    refine ⟨parsed, ⟨?_⟩⟩
    exact
      { header := token.header
        signature := token.signature
        split := CompactToken.parse_eq_ok_iff_splitOn.mp parsed
        headerBytes, headerSpelled, fields, headerRead, key, vouched
        algorithm := Header.checkAlgorithm_eq_ok_iff.mp named
        signatureBytes, signatureSpelled
        message := Utf8.encode token.signingInput
        message_front := by
          rw [(CompactToken.parse_eq_ok_iff.mp parsed).1]
          exact token.encode_text
        attested }
  · rintro ⟨parsed, ⟨evidence⟩⟩
    -- The segments that the evidence speaks of are those of the token.
    have same : token = ⟨evidence.header, token.payload, evidence.signature⟩ :=
      Except.ok.inj (parsed.symm.trans (CompactToken.parse_eq_ok_iff_splitOn.mpr evidence.split))
    have header : token.header = evidence.header := congrArg CompactToken.header same
    have signature : token.signature = evidence.signature := congrArg CompactToken.signature same
    -- The text itself fixes what the signature covers.
    have covered : evidence.message = Utf8.encode token.signingInput := by
      have whole := congrArg Utf8.encode (CompactToken.parse_eq_ok_iff.mp parsed).1
      rw [CompactToken.encode_text, evidence.message_front, signature] at whole
      exact List.append_cancel_right whole
    refine ⟨token, parsed, evidence.fields, ?_, evidence.key, evidence.vouched, (), ?_, (), ?_, rfl⟩
    · exact CompactToken.readHeader_eq_ok_iff.mpr
        ⟨evidence.headerBytes, header ▸ evidence.headerSpelled, evidence.headerRead⟩
    · exact Header.checkAlgorithm_eq_ok_iff.mpr evidence.algorithm
    · refine CompactToken.checkSignature_eq_ok_iff.mpr
        ⟨evidence.signatureBytes, signature ▸ evidence.signatureSpelled, ?_⟩
      rw [← covered]
      exact evidence.attested

/-- **The gate**: the bytes of a payload are given exactly when there is evidence for it. -/
theorem verifiedPayload_eq_ok_iff {bytes : Bytes} :
    anchor.verifiedPayload text instant = .ok bytes ↔
      ∃ payload, Nonempty (Evidence anchor instant text payload) ∧
        CompactToken.segmentBytes? payload = some bytes := by
  rw [verifiedPayload_eq_bind, Outcome.bind_eq_ok_iff]
  simp only [verdict_eq_ok_iff, CompactToken.payloadBytes_eq_ok_iff]
  refine ⟨?_, ?_⟩
  · rintro ⟨token, ⟨_, evidence⟩, spelled⟩
    exact ⟨token.payload, evidence, spelled⟩
  · rintro ⟨payload, ⟨evidence⟩, spelled⟩
    exact ⟨⟨evidence.header, payload, evidence.signature⟩,
      ⟨CompactToken.parse_eq_ok_iff_splitOn.mpr evidence.split, ⟨evidence⟩⟩, spelled⟩

/-- What is read from a verified payload is shown. -/
theorem openWith_eq_ok_iff {read : Bytes → Except Fault α} {value : α} :
    anchor.openWith read text instant = .ok value ↔ anchor.Shown instant read text value := by
  rw [openWith, Outcome.bind_eq_ok_iff]
  refine ⟨?_, ?_⟩
  · rintro ⟨bytes, verified, found⟩
    obtain ⟨payload, evidence, spelled⟩ := verifiedPayload_eq_ok_iff.mp verified
    exact ⟨payload, bytes, evidence, spelled, readPayload_eq_ok_iff.mp found⟩
  · rintro ⟨payload, bytes, evidence, spelled, found⟩
    exact ⟨bytes, verifiedPayload_eq_ok_iff.mpr ⟨payload, evidence, spelled⟩,
      readPayload_eq_ok_iff.mpr found⟩

/-! ### Openings -/

/-- The record of a token that may be missing. -/
theorem openMaybe_eq_ok_iff {opening : String → Outcome α} {source : Option String}
    {value : Option α} :
    openMaybe opening source = .ok value ↔
      Option.Rel (fun text record => opening text = .ok record) source value := by
  cases source with
  | none =>
    rw [openMaybe]
    refine ⟨?_, ?_⟩
    · intro opened
      cases opened
      exact .none
    · intro related
      cases related
      rfl
  | some text =>
    rw [openMaybe, Outcome.map_eq_ok_iff]
    refine ⟨?_, ?_⟩
    · rintro ⟨record, opened, rfl⟩
      exact .some opened
    · intro related
      cases related with
      | some opened => exact ⟨_, opened, rfl⟩

/-- The records that a tree is told to be. -/
theorem SignedRecord.ofTree_eq_ok_iff {tree : Tree} {record : SignedRecord} :
    SignedRecord.ofTree tree = .ok record ↔
      (∃ transaction, record = .transaction transaction ∧
        (tree.member? "transactionId").isSome = true ∧
        Transaction.shape.ofTree tree = .ok transaction) ∨
      (∃ renewalInfo, record = .renewalInfo renewalInfo ∧
        (tree.member? "transactionId").isSome = false ∧
        ((tree.member? "renewalDate").isSome = true ∨
          (tree.member? "autoRenewStatus").isSome = true) ∧
        RenewalInfo.shape.ofTree tree = .ok renewalInfo) := by
  rw [SignedRecord.ofTree]
  split
  · rename_i identified
    rw [Outcome.map_eq_ok_iff]
    refine ⟨?_, ?_⟩
    · rintro ⟨transaction, read, rfl⟩
      exact .inl ⟨transaction, rfl, identified, readPayload_eq_ok_iff.mp read⟩
    · rintro (⟨transaction, rfl, _, read⟩ | ⟨_, _, unidentified, _⟩)
      · exact ⟨transaction, readPayload_eq_ok_iff.mpr read, rfl⟩
      · rw [identified] at unidentified
        cases unidentified
  · rename_i unidentified
    rw [Bool.not_eq_true] at unidentified
    split
    · rename_i renewing
      rw [Bool.or_eq_true] at renewing
      rw [Outcome.map_eq_ok_iff]
      refine ⟨?_, ?_⟩
      · rintro ⟨renewalInfo, read, rfl⟩
        exact .inr ⟨renewalInfo, rfl, unidentified, renewing, readPayload_eq_ok_iff.mp read⟩
      · rintro (⟨_, _, identified, _⟩ | ⟨renewalInfo, rfl, _, _, read⟩)
        · rw [identified] at unidentified
          cases unidentified
        · exact ⟨renewalInfo, readPayload_eq_ok_iff.mpr read, rfl⟩
    · rename_i neither
      refine ⟨?_, ?_⟩
      · intro told
        cases told
      · rintro (⟨_, _, identified, _⟩ | ⟨_, _, _, renewing, _⟩)
        · rw [identified] at unidentified
          cases unidentified
        · exact absurd (Bool.or_eq_true _ _ ▸ renewing) neither

/-- A record of either kind is told from the tree that a text with evidence spells. -/
theorem openRecord_eq_ok_iff {record : SignedRecord} :
    anchor.openRecord text instant = .ok record ↔
      ∃ tree, anchor.Shown instant Tree.decode text tree ∧
        SignedRecord.ofTree tree = .ok record := by
  rw [openRecord, Outcome.bind_eq_ok_iff]
  simp only [openTree, openWith_eq_ok_iff]

/-- A notification is opened with its records when each of the tokens is opened. -/
theorem openNotificationWithRecords_eq_ok_iff {opened : OpenedNotification} :
    anchor.openNotificationWithRecords text instant = .ok opened ↔
      anchor.openNotification text instant = .ok opened.payload ∧
        openMaybe (anchor.openTransaction · instant)
          (opened.payload.data.bind (·.signedTransactionInfo)) = .ok opened.transaction ∧
        openMaybe (anchor.openRenewalInfo · instant)
          (opened.payload.data.bind (·.signedRenewalInfo)) = .ok opened.renewalInfo := by
  simp only [openNotificationWithRecords, Outcome.bind_eq_ok_iff]
  refine ⟨?_, ?_⟩
  · rintro ⟨payload, outer, transaction, first, renewalInfo, second, together⟩
    cases together
    exact ⟨outer, first, second⟩
  · rintro ⟨outer, first, second⟩
    exact ⟨_, outer, _, first, _, second, rfl⟩

/-! ### All openings -/

/-- **Nothing unverified is shown, and all that is verified is.** Whatever is read, the value given
is what the reader makes of the payload of a text with evidence. A notification with its records and
a list of transactions have evidence for each of their texts, and a client shows a transaction only
from a reply that has evidence at the time of the call. -/
theorem opened_iff_shown (anchor : TrustAnchor) (instant : Instant) :
    (∀ {α : Type} (read : Bytes → Except Fault α) (text : String) (value : α),
      anchor.openWith read text instant = .ok value ↔ anchor.Shown instant read text value) ∧
    (∀ {α : Type} (shape : Shape α) (text : String) (value : α),
      anchor.openAs shape text instant = .ok value ↔
        anchor.Shown instant shape.decode text value) ∧
    (∀ (text : String) (tree : Tree),
      anchor.openTree text instant = .ok tree ↔ anchor.Shown instant Tree.decode text tree) ∧
    (∀ (text : String) (record : Transaction),
      anchor.openTransaction text instant = .ok record ↔
        anchor.Shown instant Transaction.shape.decode text record) ∧
    (∀ (text : String) (record : RenewalInfo),
      anchor.openRenewalInfo text instant = .ok record ↔
        anchor.Shown instant RenewalInfo.shape.decode text record) ∧
    (∀ (text : String) (payload : Notification),
      anchor.openNotification text instant = .ok payload ↔
        anchor.Shown instant Notification.shape.decode text payload) ∧
    (∀ (text : String) (opened : OpenedNotification),
      anchor.openNotificationWithRecords text instant = .ok opened ↔
        anchor.Shown instant Notification.shape.decode text opened.payload ∧
        Option.Rel (anchor.Shown instant Transaction.shape.decode)
          (opened.payload.data.bind (·.signedTransactionInfo)) opened.transaction ∧
        Option.Rel (anchor.Shown instant RenewalInfo.shape.decode)
          (opened.payload.data.bind (·.signedRenewalInfo)) opened.renewalInfo) ∧
    (∀ (texts : List String) (records : List Transaction),
      anchor.openTransactions texts instant = .ok records ↔
        List.Forall₂ (anchor.Shown instant Transaction.shape.decode) texts records) ∧
    (∀ (text : String) (record : SignedRecord),
      anchor.openRecord text instant = .ok record ↔
        ∃ tree, anchor.Shown instant Tree.decode text tree ∧
          SignedRecord.ofTree tree = .ok record) ∧
    (∀ (address id : String) (now : Int) (chance : Chance) (keeper : Keeper)
        (carry : Request → Arrival) (record : Transaction),
      (Client.verifiedTransaction ⟨address, anchor⟩ id now chance keeper carry).result =
          .ok record ↔
        ∃ reply, (Client.call ⟨address, anchor⟩ (.transaction id) now chance keeper carry).result =
            .ok reply ∧
          anchor.Shown (.ofSeconds now) Transaction.shape.decode reply.signedTransactionInfo
            record) := by
  refine ⟨?_, ?_, ?_, ?_, ?_, ?_, ?_, ?_, ?_, ?_⟩
  · intro α read text value
    exact openWith_eq_ok_iff
  · intro α shape text value
    exact openWith_eq_ok_iff
  · intro text tree
    exact openWith_eq_ok_iff
  · intro text record
    exact openWith_eq_ok_iff
  · intro text record
    exact openWith_eq_ok_iff
  · intro text payload
    exact openWith_eq_ok_iff
  · intro text opened
    simp only [openNotificationWithRecords_eq_ok_iff, openMaybe_eq_ok_iff, openNotification,
      openTransaction, openRenewalInfo, openAs, openWith_eq_ok_iff]
  · intro texts records
    simp only [openTransactions, Outcome.mapM_eq_ok_iff, openTransaction, openAs,
      openWith_eq_ok_iff]
  · intro text record
    exact openRecord_eq_ok_iff
  · intro address id now chance keeper carry record
    simp only [Client.verifiedTransaction]
    refine Outcome.bind_eq_ok_iff.trans ?_
    simp only [openTransaction, openAs, openWith_eq_ok_iff]

end TrustAnchor

end SignedPurchase
