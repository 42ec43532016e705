import SignedPurchase.Record.RenewalInfo
import SignedPurchase.Record.Transaction

/-
**Notifications.**

What the store reports of its own accord: the kind of event, and the signed records that go with it,
which are tokens of their own.

* `Notification.shape` and `NotificationData.shape` read and write them;
* `SignedBody` is the body that carries the token of a notification;
* `OpenedNotification` is a notification with its records opened.
-/

namespace SignedPurchase

open Json

/-- The kind of event. -/
inductive NotificationType where
  | consumptionRequest
  | didChangeRenewalPref
  | didChangeRenewalStatus
  | didFailToRenew
  | didRenew
  | expired
  | gracePeriodExpired
  | offerRedeemed
  | priceIncrease
  | refund
  | refundDeclined
  | refundReversed
  | renewalExtended
  | renewalExtension
  | revoke
  | subscribed
  | test
  | unknown
  deriving DecidableEq, Repr

namespace NotificationType

/-- The written name. -/
def name : NotificationType → String
  | .consumptionRequest => "CONSUMPTION_REQUEST"
  | .didChangeRenewalPref => "DID_CHANGE_RENEWAL_PREF"
  | .didChangeRenewalStatus => "DID_CHANGE_RENEWAL_STATUS"
  | .didFailToRenew => "DID_FAIL_TO_RENEW"
  | .didRenew => "DID_RENEW"
  | .expired => "EXPIRED"
  | .gracePeriodExpired => "GRACE_PERIOD_EXPIRED"
  | .offerRedeemed => "OFFER_REDEEMED"
  | .priceIncrease => "PRICE_INCREASE"
  | .refund => "REFUND"
  | .refundDeclined => "REFUND_DECLINED"
  | .refundReversed => "REFUND_REVERSED"
  | .renewalExtended => "RENEWAL_EXTENDED"
  | .renewalExtension => "RENEWAL_EXTENSION"
  | .revoke => "REVOKE"
  | .subscribed => "SUBSCRIBED"
  | .test => "TEST"
  | .unknown => "UNKNOWN"

/-- The choice among notification types. A name that is not known is kept as such. -/
def choice : Choice NotificationType where
  names := [("CONSUMPTION_REQUEST", .consumptionRequest),
    ("DID_CHANGE_RENEWAL_PREF", .didChangeRenewalPref),
    ("DID_CHANGE_RENEWAL_STATUS", .didChangeRenewalStatus),
    ("DID_FAIL_TO_RENEW", .didFailToRenew),
    ("DID_RENEW", .didRenew),
    ("EXPIRED", .expired),
    ("GRACE_PERIOD_EXPIRED", .gracePeriodExpired),
    ("OFFER_REDEEMED", .offerRedeemed),
    ("PRICE_INCREASE", .priceIncrease),
    ("REFUND", .refund),
    ("REFUND_DECLINED", .refundDeclined),
    ("REFUND_REVERSED", .refundReversed),
    ("RENEWAL_EXTENDED", .renewalExtended),
    ("RENEWAL_EXTENSION", .renewalExtension),
    ("REVOKE", .revoke),
    ("SUBSCRIBED", .subscribed),
    ("TEST", .test)]
  fallback := some .unknown
  name := name
  read_name value := by cases value <;> decide

/-- Notification types are written by name. -/
def shape : Shape NotificationType := .choice choice

end NotificationType

/-- What the event was about. -/
inductive NotificationSubtype where
  | initialBuy
  | resubscribe
  | downgrade
  | upgrade
  | autoRenewEnabled
  | autoRenewDisabled
  | voluntary
  | billingRetry
  | priceIncrease
  | gracePeriod
  | billingRecovery
  | pending
  | accepted
  | summary
  | failure
  | unknown
  deriving DecidableEq, Repr

namespace NotificationSubtype

/-- The written name. -/
def name : NotificationSubtype → String
  | .initialBuy => "INITIAL_BUY"
  | .resubscribe => "RESUBSCRIBE"
  | .downgrade => "DOWNGRADE"
  | .upgrade => "UPGRADE"
  | .autoRenewEnabled => "AUTO_RENEW_ENABLED"
  | .autoRenewDisabled => "AUTO_RENEW_DISABLED"
  | .voluntary => "VOLUNTARY"
  | .billingRetry => "BILLING_RETRY"
  | .priceIncrease => "PRICE_INCREASE"
  | .gracePeriod => "GRACE_PERIOD"
  | .billingRecovery => "BILLING_RECOVERY"
  | .pending => "PENDING"
  | .accepted => "ACCEPTED"
  | .summary => "SUMMARY"
  | .failure => "FAILURE"
  | .unknown => "UNKNOWN"

/-- The choice among notification subtypes. A name that is not known is kept as such. -/
def choice : Choice NotificationSubtype where
  names := [("INITIAL_BUY", .initialBuy),
    ("RESUBSCRIBE", .resubscribe),
    ("DOWNGRADE", .downgrade),
    ("UPGRADE", .upgrade),
    ("AUTO_RENEW_ENABLED", .autoRenewEnabled),
    ("AUTO_RENEW_DISABLED", .autoRenewDisabled),
    ("VOLUNTARY", .voluntary),
    ("BILLING_RETRY", .billingRetry),
    ("PRICE_INCREASE", .priceIncrease),
    ("GRACE_PERIOD", .gracePeriod),
    ("BILLING_RECOVERY", .billingRecovery),
    ("PENDING", .pending),
    ("ACCEPTED", .accepted),
    ("SUMMARY", .summary),
    ("FAILURE", .failure)]
  fallback := some .unknown
  name := name
  read_name value := by cases value <;> decide

/-- Notification subtypes are written by name. -/
def shape : Shape NotificationSubtype := .choice choice

end NotificationSubtype

/-- The app a notification is about, and the tokens of its records. -/
structure NotificationData where
  appAppleId : Option Int64
  bundleId : Option String
  bundleVersion : Option String
  environment : Option Environment
  signedTransactionInfo : Option String
  signedRenewalInfo : Option String
  status : Option Int32
  deriving DecidableEq, Repr

namespace NotificationData

/-- The members of the data in their order. -/
def members :=
  Members.maybe "appAppleId" (.integer .signed64) <|
  Members.maybe "bundleId" .text <|
  Members.maybe "bundleVersion" .text <|
  Members.maybe "environment" Environment.shape <|
  Members.maybe "signedTransactionInfo" .text <|
  Members.maybe "signedRenewalInfo" .text <|
  Members.maybe "status" (.integer .signed32) .nil

/-- The data of a notification is a record. -/
def shape : Shape NotificationData :=
  .via
    { apply := fun ⟨appAppleId, bundleId, bundleVersion, environment, signedTransactionInfo,
          signedRenewalInfo, status, _⟩ =>
        { appAppleId, bundleId, bundleVersion, environment, signedTransactionInfo,
          signedRenewalInfo, status }
      back := fun record =>
        (record.appAppleId, record.bundleId, record.bundleVersion, record.environment,
          record.signedTransactionInfo, record.signedRenewalInfo, record.status, ())
      back_apply := fun _ => rfl }
    (.record "NotificationData" members)

end NotificationData

/-- A report of the store. -/
structure Notification where
  notificationType : NotificationType
  subtype : Option NotificationSubtype
  notificationUUID : String
  version : Option String
  signedDate : Option Int64
  data : Option NotificationData
  deriving DecidableEq, Repr

namespace Notification

/-- The members of a notification in their order. The version has two names. -/
def members :=
  Members.required "notificationType" NotificationType.shape <|
  Members.maybe "subtype" NotificationSubtype.shape <|
  Members.required "notificationUUID" .text <|
  Members.cons "version" ["notificationVersion"] (.optional .text) (some none) false <|
  Members.maybe "signedDate" (.integer .signed64) <|
  Members.maybe "data" NotificationData.shape .nil

/-- Notifications are records. -/
def shape : Shape Notification :=
  .via
    { apply := fun ⟨notificationType, subtype, notificationUUID, version, signedDate, data, _⟩ =>
        { notificationType, subtype, notificationUUID, version, signedDate, data }
      back := fun record =>
        (record.notificationType, record.subtype, record.notificationUUID, record.version,
          record.signedDate, record.data, ())
      back_apply := fun _ => rfl }
    (.record "NotificationPayload" members)

end Notification

/-- The body that carries the token of a notification. -/
structure SignedBody where
  signedPayload : String
  deriving DecidableEq, Repr

namespace SignedBody

/-- Such a body is a record of one member. -/
def shape : Shape SignedBody :=
  .via ⟨fun ⟨signedPayload, _⟩ => ⟨signedPayload⟩, fun record => (record.signedPayload, ()),
      fun _ => rfl⟩
    (.record "ResponseBodyV2" (Members.required "signedPayload" .text .nil))

end SignedBody

/-- A notification with its records opened. -/
structure OpenedNotification where
  payload : Notification
  transaction : Option Transaction
  renewalInfo : Option RenewalInfo
  deriving DecidableEq, Repr

end SignedPurchase
