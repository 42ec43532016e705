import SignedPurchase.Proofs.Json.Restoring
import SignedPurchase.Record.Notification
import SignedPurchase.Record.Reply

/-
**Records that are read and written again.**

What the store sent and was read is written in a text that gives the same record, straight from its
bytes and through its tree. Nothing is lost on the way: codes that are not known, members that are
absent, and whatever characters a text holds.

* `IsStoreShape` lists the shapes of all that the store sends;
* `IsStoreShape.faithful`: each of them is faithful;
* `Shape.KeepsCodes` and `Choice.FallsTo` say what becomes of codes and names that are not known;
* `reencoding_lossless` puts this together;
* `Specimen.notice_reencoded` is a notification that is written otherwise than it was read.
-/

namespace SignedPurchase

open Json

/-- The shapes of the records that the store sends, and of their parts. -/
inductive IsStoreShape : {α : Type} → Shape α → Prop where
  | transaction : IsStoreShape Transaction.shape
  | renewalInfo : IsStoreShape RenewalInfo.shape
  | notification : IsStoreShape Notification.shape
  | notificationData : IsStoreShape NotificationData.shape
  | signedBody : IsStoreShape SignedBody.shape
  | transactionReply : IsStoreShape TransactionReply.shape
  | historyReply : IsStoreShape HistoryReply.shape
  | statusReply : IsStoreShape StatusReply.shape
  | subscriptionGroup : IsStoreShape SubscriptionGroup.shape
  | lastTransaction : IsStoreShape LastTransaction.shape
  | orderReply : IsStoreShape OrderReply.shape
  | refundReply : IsStoreShape RefundReply.shape
  | testRequestReply : IsStoreShape TestRequestReply.shape
  | testStatusReply : IsStoreShape TestStatusReply.shape
  | sendAttempt : IsStoreShape SendAttempt.shape
  | productType : IsStoreShape ProductType.shape
  | ownershipType : IsStoreShape OwnershipType.shape
  | environment : IsStoreShape Environment.shape
  | autoRenewStatus : IsStoreShape AutoRenewStatus.shape
  | subscriptionStatus : IsStoreShape SubscriptionStatus.shape
  | orderStatus : IsStoreShape OrderStatus.shape
  | notificationType : IsStoreShape NotificationType.shape
  | notificationSubtype : IsStoreShape NotificationSubtype.shape

/-! ### Faithful shapes -/

section Faithful

attribute [local simp] Shape.Faithful Members.Faithful Members.required Members.maybe
  Members.withDefault Shape.isPresent

variable {α σ ρ : Type} {depth : Nat}

@[simp]
theorem code_faithful (view : View Int32 α) : (Shape.code view).Faithful depth :=
  IntegerKind.signed32_isWord

@[simp]
theorem code_isPresent (view : View Int32 α) : (Shape.code view).isPresent = true :=
  rfl

@[simp]
theorem Environment.shape_faithful : Environment.shape.Faithful depth :=
  trivial

@[simp]
theorem Environment.shape_isPresent : Environment.shape.isPresent = true :=
  rfl

/-- A record with a type of its own is faithful when its members are. -/
theorem record_faithful {view : View ρ α} {title : String} {members : Members σ ρ}
    (apart : members.isApart = true) (faithful : members.Faithful depth) :
    (Shape.via view (.record title members)).Faithful (depth + 1) :=
  ⟨apart, faithful⟩

@[simp]
theorem NotificationData.shape_faithful : NotificationData.shape.Faithful (depth + 1) :=
  record_faithful (by decide) (by simp [NotificationData.members])

@[simp]
theorem NotificationData.shape_isPresent : NotificationData.shape.isPresent = true :=
  rfl

@[simp]
theorem LastTransaction.shape_faithful : LastTransaction.shape.Faithful (depth + 1) :=
  record_faithful (by decide) (by simp [LastTransaction.members, SubscriptionStatus.shape])

@[simp]
theorem SubscriptionGroup.shape_faithful : SubscriptionGroup.shape.Faithful (depth + 3) :=
  record_faithful (by decide) (by simp [SubscriptionGroup.members])

@[simp]
theorem SendAttempt.shape_faithful : SendAttempt.shape.Faithful (depth + 1) :=
  record_faithful (by decide) (by simp [SendAttempt.members])

/-- **The shapes of all that the store sends are faithful.** -/
theorem IsStoreShape.faithful {shape : Shape α} (known : IsStoreShape shape) :
    shape.Faithful Tree.greatestDepth := by
  rw [show Tree.greatestDepth = 122 + 5 from rfl]
  cases known with
  | transaction =>
    exact record_faithful (by decide)
      (by simp [Transaction.members, ProductType.shape, OwnershipType.shape])
  | renewalInfo =>
    exact record_faithful (by decide) (by simp [RenewalInfo.members, AutoRenewStatus.shape])
  | notification =>
    exact record_faithful (by decide)
      (by simp [Notification.members, NotificationType.shape, NotificationSubtype.shape])
  | notificationData => exact NotificationData.shape_faithful
  | signedBody => exact record_faithful (by decide) (by simp)
  | transactionReply => exact record_faithful (by decide) (by simp [TransactionReply.members])
  | historyReply => exact record_faithful (by decide) (by simp [HistoryReply.members])
  | statusReply => exact record_faithful (by decide) (by simp [StatusReply.members])
  | subscriptionGroup => exact SubscriptionGroup.shape_faithful
  | lastTransaction => exact LastTransaction.shape_faithful
  | orderReply =>
    exact record_faithful (by decide) (by simp [OrderReply.members, OrderStatus.shape])
  | refundReply => exact record_faithful (by decide) (by simp [RefundReply.members])
  | testRequestReply => exact record_faithful (by decide) (by simp [TestRequestReply.members])
  | testStatusReply => exact record_faithful (by decide) (by simp [TestStatusReply.members])
  | sendAttempt => exact SendAttempt.shape_faithful
  | autoRenewStatus | subscriptionStatus | orderStatus => exact code_faithful _
  | productType | ownershipType | environment | notificationType | notificationSubtype =>
    exact trivial

end Faithful

/-! ### Codes and names that are not known -/

/-- Every code gives a value, and the code is what is written of the value. -/
def Json.Shape.KeepsCodes {α : Type} (shape : Shape α) (ofCode : Int32 → α) : Prop :=
  ∀ code : Int32, shape.decode (Utf8.encode (integerText code.toInt)) = .ok (ofCode code) ∧
    shape.encode (ofCode code) = Utf8.encode (integerText code.toInt)

/-- Every name that is not known gives one value, which survives as it is. -/
def Json.Choice.FallsTo {α : Type} (choice : Choice α) (value : α) : Prop :=
  ∀ name, choice.names.lookup name = none →
    (Shape.choice choice).decode (Shape.text.encode name) = .ok value ∧
      (Shape.choice choice).Survives value

variable {α : Type} {shape : Shape α}

theorem code_keepsCodes (view : View Int32 α) : (Shape.code view).KeepsCodes view.apply := by
  intro code
  have written : (Shape.code view).encode (view.apply code) =
      Utf8.encode (integerText code.toInt) := by
    rw [Shape.encode, Shape.code, Shape.write, view.back_apply, Shape.write, Tree.write]
    rfl
  have fits : ((Shape.code view).write (view.apply code)).Fits Tree.greatestDepth :=
    Shape.fits_write _ (code_faithful view) _
  have restored : (Shape.code view).Restores (view.apply code) :=
    Shape.via_restores view (Shape.integer_restores .signed32 code)
  rw [← written]
  exact ⟨(Shape.survives_of_restores fits restored).1, rfl⟩

theorem choice_fallsTo {choice : Choice α} {value : α} (fallback : choice.fallback = some value) :
    choice.FallsTo value := by
  intro name stranger
  have faithful : (Shape.choice choice).Faithful Tree.greatestDepth := trivial
  refine ⟨?_, Shape.survives_of_restores (Shape.fits_write _ faithful value)
    (Shape.choice_restores choice value)⟩
  rw [Shape.decode_eq_ok_iff, Shape.encode, Shape.write,
    Document.read_write (Tree.fits_text Tree.greatestDepth name)]
  refine ⟨Shape.read_choice_eq_ok_iff.mpr ⟨name, .inl rfl, ?_⟩, rfl⟩
  rw [Choice.value?, stranger, Option.none_or, fallback]

/-! ### Writing what was read -/

/-- What the store sent and was read survives being written. -/
theorem survives_of_gives (known : IsStoreShape shape) {bytes : Bytes} {value : α}
    (given : shape.Gives bytes value) : shape.Survives value :=
  Shape.survives_of_restores (shape.fits_write known.faithful value)
    (Shape.restores_of_gives known.faithful given)

/-- **Reading and writing again loses nothing.** Whatever a text gives, by either route, survives
being written, and is not written differently after that. Codes come back as they were, names that are
not known as the one value that stands for them all, absent values as absent, texts as they were. -/
theorem reencoding_lossless :
    (∀ {α : Type} {shape : Shape α}, IsStoreShape shape →
      ∀ (bytes : Bytes) (value : α), shape.Gives bytes value → shape.Survives value ∧
        ∀ again, shape.Gives (shape.encode value) again →
          shape.encode again = shape.encode value) ∧
    (AutoRenewStatus.shape.KeepsCodes AutoRenewStatus.ofCode ∧
      SubscriptionStatus.shape.KeepsCodes SubscriptionStatus.ofCode ∧
      OrderStatus.shape.KeepsCodes OrderStatus.ofCode) ∧
    (ProductType.choice.FallsTo .unknown ∧ OwnershipType.choice.FallsTo .unknown ∧
      NotificationType.choice.FallsTo .unknown ∧ NotificationSubtype.choice.FallsTo .unknown) ∧
    (∀ {α : Type} (shape : Shape α), shape.optional.Survives none) ∧
    ∀ text, Shape.text.Survives text := by
  refine ⟨?_, ⟨?_, ?_, ?_⟩, ⟨?_, ?_, ?_, ?_⟩, ?_, ?_⟩
  · intro α shape known bytes value given
    have survives := survives_of_gives known given
    refine ⟨survives, fun again given => ?_⟩
    rw [survives.eq_of_gives given]
  · exact code_keepsCodes _
  · exact code_keepsCodes _
  · exact code_keepsCodes _
  · exact choice_fallsTo rfl
  · exact choice_fallsTo rfl
  · exact choice_fallsTo rfl
  · exact choice_fallsTo rfl
  · intro α shape
    refine Shape.survives_of_restores ?_ shape.optional_restores_none
    rw [Shape.write]
    exact Tree.fits_null _
  · intro text
    exact Shape.survives_of_restores (Tree.fits_text _ text) (Shape.text_restores text)

namespace Specimen

/-- The text of a notification as a list, with a type and a version that stand for nothing known. -/
def noticeText : Bytes :=
  Utf8.encode "[\"BRAND_NEW\",null,\"\\u00e9\\n\",\"2.0\",null,\x7b\"status\":-7,\"bundleId\":\"b\"\x7d]"

/-- The notification of that text. -/
def notice : Notification where
  notificationType := .unknown
  subtype := none
  notificationUUID := "é\n"
  version := some "2.0"
  signedDate := none
  data := some ⟨none, some "b", none, none, none, none, some (-7)⟩

/-- The list is a text that gives the notification. -/
theorem notice_given : Notification.shape.decode noticeText = .ok notice := rfl

/-- The notification is written as an object, and survives. -/
theorem notice_reencoded : IsStoreShape Notification.shape ∧
    Notification.shape.Gives noticeText notice ∧
    Notification.shape.Survives notice ∧ Notification.shape.encode notice ≠ noticeText :=
  ⟨.notification, .inl notice_given,
    (reencoding_lossless.1 .notification noticeText notice (.inl notice_given)).1, by decide⟩

end Specimen

end SignedPurchase
