import SignedPurchase.Environment
import SignedPurchase.Instant
import SignedPurchase.Record.Status

/-
**Renewal information.**

The record of how a subscription goes on.

* `RenewalInfo.shape` reads and writes it;
* `RenewalInfo.willAutoRenew` is true only for the status `on`.
-/

namespace SignedPurchase

open Json

/-- How a subscription goes on. Dates are counts of milliseconds, as sent. -/
structure RenewalInfo where
  firstTransactionId : String
  autoRenewProductId : Option String
  productId : Option String
  autoRenewStatus : Option AutoRenewStatus
  expirationIntent : Option Int32
  gracePeriodExpiresDate : Option Int64
  isInBillingRetryPeriod : Option Bool
  offerType : Option Int32
  offerIdentifier : Option String
  priceIncreaseStatus : Option Int32
  signedDate : Option Int64
  environment : Option Environment
  recentSubscriptionStartDate : Option Int64
  renewalDate : Option Int64
  deriving DecidableEq, Repr

namespace RenewalInfo

/-- The members of renewal information in their order. -/
def members :=
  Members.required "originalTransactionId" .text <|
  Members.maybe "autoRenewProductId" .text <|
  Members.maybe "productId" .text <|
  Members.maybe "autoRenewStatus" AutoRenewStatus.shape <|
  Members.maybe "expirationIntent" (.integer .signed32) <|
  Members.maybe "gracePeriodExpiresDate" (.integer .signed64) <|
  Members.maybe "isInBillingRetryPeriod" .flag <|
  Members.maybe "offerType" (.integer .signed32) <|
  Members.maybe "offerIdentifier" .text <|
  Members.maybe "priceIncreaseStatus" (.integer .signed32) <|
  Members.maybe "signedDate" (.integer .signed64) <|
  Members.maybe "environment" Environment.shape <|
  Members.maybe "recentSubscriptionStartDate" (.integer .signed64) <|
  Members.maybe "renewalDate" (.integer .signed64) .nil

/-- Renewal information is a record. -/
def shape : Shape RenewalInfo :=
  .via
    { apply := fun ⟨firstTransactionId, autoRenewProductId, productId, autoRenewStatus,
          expirationIntent, gracePeriodExpiresDate, isInBillingRetryPeriod, offerType,
          offerIdentifier, priceIncreaseStatus, signedDate, environment,
          recentSubscriptionStartDate, renewalDate, _⟩ =>
        { firstTransactionId, autoRenewProductId, productId, autoRenewStatus,
          expirationIntent, gracePeriodExpiresDate, isInBillingRetryPeriod, offerType,
          offerIdentifier, priceIncreaseStatus, signedDate, environment,
          recentSubscriptionStartDate, renewalDate }
      back := fun record =>
        (record.firstTransactionId, record.autoRenewProductId, record.productId,
          record.autoRenewStatus, record.expirationIntent, record.gracePeriodExpiresDate,
          record.isInBillingRetryPeriod, record.offerType, record.offerIdentifier,
          record.priceIncreaseStatus, record.signedDate, record.environment,
          record.recentSubscriptionStartDate, record.renewalDate, ())
      back_apply := fun _ => rfl }
    (.record "JwsRenewalInfo" members)

/-- When the next renewal is charged. -/
def renewsAt (info : RenewalInfo) : Option Instant :=
  info.renewalDate.bind Instant.ofMilliseconds?

/-- Until when the subscription lasts while a payment is outstanding. -/
def gracePeriodExpiresAt (info : RenewalInfo) : Option Instant :=
  info.gracePeriodExpiresDate.bind Instant.ofMilliseconds?

/-- When the record was signed. -/
def signedAt (info : RenewalInfo) : Option Instant :=
  info.signedDate.bind Instant.ofMilliseconds?

/-- Whether the subscription is set to renew. -/
def willAutoRenew (info : RenewalInfo) : Bool :=
  info.autoRenewStatus = some .on

end RenewalInfo

end SignedPurchase
