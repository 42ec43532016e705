import SignedPurchase.Proofs.Record.Absence
import SignedPurchase.Proofs.Trust.Verdict

/-
**Several tokens at once.**

A list of transactions, or a notification with its records, is opened as a whole or not at all. Nothing
that is carried is left out: a record is absent only where there is no token for it, and a token that
gives no record is what is reported.

* `openTransactions_append` and `openTransactions_eq_ok_iff`: lists are opened one text after the other;
* `OpensTo` says what a token that may be missing is opened to;
* `openNotification_given` is what the payload of a notification gives for its tokens;
* `all_or_nothing` puts this together, `Lettered.notice_refused` is a notification whose one record is
  refused.
-/

namespace SignedPurchase

open Json

/-- What a token that may be missing is opened to: nothing exactly when there is none, and otherwise the
record that it is opened to on its own. -/
structure OpensTo {α : Type} (opening : String → Outcome α) (token : Option String)
    (record : Option α) : Prop where
  absent : record = none ↔ token = none
  own : ∀ text ∈ token, ∃ value, opening text = .ok value ∧ record = some value

/-- That is what opening it gives. -/
theorem TrustAnchor.openMaybe_eq_ok_iff_opensTo {α : Type} {opening : String → Outcome α}
    {token : Option String} {record : Option α} :
    openMaybe opening token = .ok record ↔ OpensTo opening token record := by
  rw [openMaybe_eq_ok_iff]
  refine ⟨?_, ?_⟩
  · intro related
    cases related with
    | none => exact ⟨⟨fun _ => rfl, fun _ => rfl⟩, nofun⟩
    | @some text value opened =>
      refine ⟨by simp only [reduceCtorEq], fun other same => ?_⟩
      rw [← Option.some.inj same]
      exact ⟨value, opened, rfl⟩
  · rintro ⟨absent, own⟩
    cases token with
    | none =>
      rw [absent.mpr rfl]
      exact .none
    | some text =>
      obtain ⟨value, opened, rfl⟩ := own text rfl
      exact .some opened

namespace TrustAnchor

variable {anchor : TrustAnchor} {instant : Instant} {text : String}

/-! ### Lists of transactions -/

/-- **Two lists of texts after each other** are opened after each other. -/
theorem openTransactions_append (front back : List String) :
    anchor.openTransactions (front ++ back) instant = (do
      let first ← anchor.openTransactions front instant
      let last ← anchor.openTransactions back instant
      return first ++ last) :=
  List.mapM_append

/-- **Each text of a list** gives the transaction in its place. -/
theorem openTransactions_eq_ok_iff {texts : List String} {records : List Transaction} :
    anchor.openTransactions texts instant = .ok records ↔
      texts.map (anchor.openTransaction · instant) = records.map .ok := by
  rw [openTransactions, Outcome.mapM_eq_ok_iff, ← List.forall₂_eq_eq_eq, List.forall₂_map_left_iff,
    List.forall₂_map_right_iff]

/-! ### Notifications -/

/-- A token that may be missing is opened when it can be. -/
theorem exists_openMaybe_iff {α : Type} {opening : String → Outcome α} {token : Option String} :
    (∃ record, openMaybe opening token = .ok record) ↔
      ∀ inner ∈ token, ∃ record, opening inner = .ok record := by
  cases token with
  | none => exact ⟨fun _ => nofun, fun _ => ⟨none, rfl⟩⟩
  | some inner =>
    simp only [openMaybe, Outcome.map_eq_ok_iff, Option.mem_some_iff, forall_eq']
    refine ⟨?_, ?_⟩
    · rintro ⟨_, record, opened, _⟩
      exact ⟨record, opened⟩
    · rintro ⟨record, opened⟩
      exact ⟨some record, record, opened, rfl⟩

/-- **What is reported of a notification with its records** is the failure of the first that fails. -/
theorem openNotificationWithRecords_eq_error_iff_first {failure : Failure} :
    anchor.openNotificationWithRecords text instant = .error failure ↔
      anchor.openNotification text instant = .error failure ∨
        ∃ payload, anchor.openNotification text instant = .ok payload ∧
          ((∃ inner ∈ payload.data.bind (·.signedTransactionInfo),
              anchor.openTransaction inner instant = .error failure) ∨
            (∀ inner ∈ payload.data.bind (·.signedTransactionInfo),
              ∃ record, anchor.openTransaction inner instant = .ok record) ∧
            ∃ inner ∈ payload.data.bind (·.signedRenewalInfo),
              anchor.openRenewalInfo inner instant = .error failure) := by
  rw [openNotificationWithRecords_eq_error_iff]
  unfold RefusedWithin
  simp only [exists_openMaybe_iff]
  rfl

/-- What a notification gives for its tokens is what it is opened with. -/
theorem openNotification_given {payload : Notification}
    (opened : anchor.openNotification text instant = .ok payload) :
    ∃ bytes, anchor.verifiedPayload text instant = .ok bytes ∧
      (((Document.read bytes).root.given? "data" 5).bind fun data =>
          data.given? "signedTransactionInfo" 4) =
        (payload.data.bind (·.signedTransactionInfo)).map (fun text => .text (some text)) ∧
      (((Document.read bytes).root.given? "data" 5).bind fun data =>
          data.given? "signedRenewalInfo" 5) =
        (payload.data.bind (·.signedRenewalInfo)).map fun text => .text (some text) := by
  obtain ⟨bytes, verified, found⟩ := Outcome.bind_eq_ok_iff.mp opened
  obtain ⟨read, _⟩ := Shape.decode_eq_ok_iff.mp (readPayload_eq_ok_iff.mp found)
  exact ⟨bytes, verified, Notification.given_tokens read⟩

/-! ### All of it -/

/-- **Several tokens are opened as a whole or not at all.** Two lists of texts are opened together
exactly when each of them is, and to the transactions of the one before those of the other; each text
gives the transaction in its place, and what is reported otherwise is the failure of the first text that
gives none. A notification is opened with its records exactly when it is opened on its own, and each
token that it carries on its own: a record is absent exactly when its token is, which is when the
payload has no data or gives nothing but `null` for it. What is reported otherwise is the failure of
the notification, of its transaction or of its renewal information, whichever is the first. -/
theorem all_or_nothing (anchor : TrustAnchor) (instant : Instant) :
    (∀ front back records, anchor.openTransactions (front ++ back) instant = .ok records ↔
      ∃ first last, anchor.openTransactions front instant = .ok first ∧
        anchor.openTransactions back instant = .ok last ∧ records = first ++ last) ∧
    (∀ texts records, anchor.openTransactions texts instant = .ok records ↔
      texts.map (anchor.openTransaction · instant) = records.map .ok) ∧
    (∀ texts failure, anchor.openTransactions texts instant = .error failure ↔
      anchor.RefusedAmong texts instant
        fun inner => anchor.openTransaction inner instant = .error failure) ∧
    (∀ text opened, anchor.openNotificationWithRecords text instant = .ok opened ↔
      anchor.openNotification text instant = .ok opened.payload ∧
        OpensTo (anchor.openTransaction · instant)
          (opened.payload.data.bind (·.signedTransactionInfo)) opened.transaction ∧
        OpensTo (anchor.openRenewalInfo · instant)
          (opened.payload.data.bind (·.signedRenewalInfo)) opened.renewalInfo) ∧
    (∀ text payload, anchor.openNotification text instant = .ok payload →
      ∃ bytes, anchor.verifiedPayload text instant = .ok bytes ∧
        (((Document.read bytes).root.given? "data" 5).bind fun data =>
            data.given? "signedTransactionInfo" 4) =
          (payload.data.bind (·.signedTransactionInfo)).map (fun text => .text (some text)) ∧
        (((Document.read bytes).root.given? "data" 5).bind fun data =>
            data.given? "signedRenewalInfo" 5) =
          (payload.data.bind (·.signedRenewalInfo)).map fun text => .text (some text)) ∧
    ∀ text failure, anchor.openNotificationWithRecords text instant = .error failure ↔
      anchor.openNotification text instant = .error failure ∨
        ∃ payload, anchor.openNotification text instant = .ok payload ∧
          ((∃ inner ∈ payload.data.bind (·.signedTransactionInfo),
              anchor.openTransaction inner instant = .error failure) ∨
            (∀ inner ∈ payload.data.bind (·.signedTransactionInfo),
              ∃ record, anchor.openTransaction inner instant = .ok record) ∧
            ∃ inner ∈ payload.data.bind (·.signedRenewalInfo),
              anchor.openRenewalInfo inner instant = .error failure) := by
  refine ⟨?_, fun _ _ => openTransactions_eq_ok_iff, fun _ _ => openTransactions_eq_error_iff, ?_,
    fun _ _ opened => openNotification_given opened,
    fun _ _ => openNotificationWithRecords_eq_error_iff_first⟩
  · intro front back records
    rw [openTransactions_append]
    simp only [Outcome.bind_eq_ok_iff]
    refine ⟨?_, ?_⟩
    · rintro ⟨first, opened, last, later, together⟩
      cases together
      exact ⟨first, last, opened, later, rfl⟩
    · rintro ⟨first, last, opened, later, rfl⟩
      exact ⟨first, opened, last, later, rfl⟩
  · intro text opened
    rw [openNotificationWithRecords_eq_ok_iff, openMaybe_eq_ok_iff_opensTo,
      openMaybe_eq_ok_iff_opensTo]

end TrustAnchor

/-! ### A notification whose one record is refused -/

namespace Lettered

/-- The text of a notification with `null` for its transaction, and with a torn text for its renewal
information. -/
def noticePayload : Bytes :=
  Utf8.encode ("\x7b\"notificationType\":\"TEST\",\"notificationUUID\":\"1\",\"data\":\x7b" ++
    "\"signedTransactionInfo\":null,\"signedRenewalInfo\":\"e30.!.!\"\x7d\x7d")

/-- The notification of that text. -/
def notice : Notification where
  notificationType := .test
  subtype := none
  notificationUUID := "1"
  version := none
  signedDate := none
  data := some ⟨none, none, none, none, none, some Specimen.tornText, none⟩

/-- The signature by the key of the base point of a token with the header and that text. -/
def noticeMark : Bytes :=
  Bytes.ofNat 32 Curve.p256.base.x ++
    Bytes.ofNat 32 0x147c80c192955d141dd6846e8d0527bc9cc2e34043156d155b1faacb2aa9a1d9

/-- The token with that text and that signature. -/
def noticed : CompactToken := .written header.algorithm header.certificates noticePayload noticeMark

theorem noticeMark_attests :
    Es256.Attests Curve.p256.base (Utf8.encode noticed.signingInput) noticeMark where
  width := by decide
  first := by decide +kernel
  second := by decide +kernel
  verifies := by
    rw [Digest.sha256_eq_foldl, CompactToken.signingInput_eq, Utf8.encode_ofList]
    simp only [noticed, CompactToken.written, CompactToken.headerTree, header, entry, Base64.encode,
      Tree.write, Tree.writeMembers, Tree.writeItems, List.map_cons, List.map_nil, Tree.writeText,
      Utf8.encode_ofList]
    decide +kernel

theorem notice_opened : anchor.openNotification noticed.text ⟨0⟩ = .ok notice :=
  openTarget_written noticeMark_attests (.shaped Notification.shape)

/-- **The notification is opened on its own, but not with its records**: the one that it lacks is no
matter, the one that is torn is what is reported, as it is for a list that ends with it. -/
theorem notice_refused : anchor.openNotification noticed.text ⟨0⟩ = .ok notice ∧
    anchor.openNotificationWithRecords noticed.text ⟨0⟩ = .error (.missingCertificates 0) ∧
    (∃ bytes, anchor.verifiedPayload noticed.text ⟨0⟩ = .ok bytes ∧
      (((Document.read bytes).root.given? "data" 5).bind fun data =>
        data.given? "signedTransactionInfo" 4) = none) ∧
    anchor.openTransactions ([] ++ [Specimen.tornText]) ⟨0⟩ = .error (.missingCertificates 0) := by
  obtain ⟨_, _, among, _, given, first⟩ := TrustAnchor.all_or_nothing anchor ⟨0⟩
  have torn : ∀ {α : Type} (target : Target α),
      anchor.openTarget target Specimen.tornText ⟨0⟩ = .error (.missingCertificates 0) :=
    fun target => (TrustAnchor.openTarget_eq_error_iff_verdict rfl).mpr Specimen.verdict_torn
  obtain ⟨bytes, verified, transaction, _⟩ := given _ _ notice_opened
  refine ⟨notice_opened, ?_, ⟨bytes, verified, transaction⟩, ?_⟩
  · exact (first _ _).mpr (.inr ⟨notice, notice_opened, .inr
      ⟨nofun, Specimen.tornText, rfl, torn (.shaped RenewalInfo.shape)⟩⟩)
  · exact (among _ _).mpr ⟨[], _, [], rfl, nofun, torn (.shaped Transaction.shape)⟩

end Lettered

end SignedPurchase
