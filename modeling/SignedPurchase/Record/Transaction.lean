import SignedPurchase.Environment
import SignedPurchase.Instant
import SignedPurchase.Json.Shape.Integer

/-
**Transactions.**

The record of one purchase, with the times at which it was bought, ends and was signed.

* `Transaction.shape` reads and writes it;
* `Transaction.isExpiredAt` and `Transaction.isRevoked` are the questions asked of it.
-/

namespace SignedPurchase

open Json

/-- What kind of product was bought. -/
inductive ProductType where
  | autoRenewableSubscription
  | nonConsumable
  | consumable
  | nonRenewingSubscription
  | unknown
  deriving DecidableEq, Repr

namespace ProductType

/-- The written name. -/
def name : ProductType → String
  | .autoRenewableSubscription => "Auto-Renewable Subscription"
  | .nonConsumable => "Non-Consumable"
  | .consumable => "Consumable"
  | .nonRenewingSubscription => "Non-Renewing Subscription"
  | .unknown => "Unknown"

/-- The choice among product types. A name that is not known is kept as such. -/
def choice : Choice ProductType where
  names := [("Auto-Renewable Subscription", .autoRenewableSubscription),
    ("Non-Consumable", .nonConsumable), ("Consumable", .consumable),
    ("Non-Renewing Subscription", .nonRenewingSubscription)]
  fallback := some .unknown
  name := name
  read_name value := by cases value <;> decide

/-- Product types are written by name. -/
def shape : Shape ProductType := .choice choice

end ProductType

/-- How the buyer holds the product. -/
inductive OwnershipType where
  | familyShared
  | purchased
  | unknown
  deriving DecidableEq, Repr

namespace OwnershipType

/-- The written name. -/
def name : OwnershipType → String
  | .familyShared => "FAMILY_SHARED"
  | .purchased => "PURCHASED"
  | .unknown => "UNKNOWN"

/-- The choice among ownership types. -/
def choice : Choice OwnershipType where
  names := [("FAMILY_SHARED", .familyShared), ("PURCHASED", .purchased)]
  fallback := some .unknown
  name := name
  read_name value := by cases value <;> decide

/-- Ownership types are written by name. -/
def shape : Shape OwnershipType := .choice choice

end OwnershipType

/-- The record of one purchase. Dates are counts of milliseconds, as sent. -/
structure Transaction where
  transactionId : String
  firstTransactionId : String
  webOrderLineItemId : Option String
  bundleId : String
  productId : String
  subscriptionGroupIdentifier : Option String
  purchaseDate : Option Int64
  firstPurchaseDate : Option Int64
  expiresDate : Option Int64
  quantity : Option UInt32
  productType : Option ProductType
  appAccountToken : Option String
  ownershipType : Option OwnershipType
  signedDate : Option Int64
  offerType : Option Int32
  offerIdentifier : Option String
  revocationDate : Option Int64
  revocationReason : Option Int32
  isUpgraded : Option Bool
  environment : Option Environment
  storefront : Option String
  transactionReason : Option String
  deriving DecidableEq, Repr

namespace Transaction

/-- The members of a transaction in their order. -/
def members :=
  Members.required "transactionId" .text <|
  Members.required "originalTransactionId" .text <|
  Members.maybe "webOrderLineItemId" .text <|
  Members.required "bundleId" .text <|
  Members.required "productId" .text <|
  Members.maybe "subscriptionGroupIdentifier" .text <|
  Members.maybe "purchaseDate" (.integer .signed64) <|
  Members.maybe "originalPurchaseDate" (.integer .signed64) <|
  Members.maybe "expiresDate" (.integer .signed64) <|
  Members.maybe "quantity" (.integer .unsigned32) <|
  Members.maybe "type" ProductType.shape <|
  Members.maybe "appAccountToken" .text <|
  Members.maybe "inAppOwnershipType" OwnershipType.shape <|
  Members.maybe "signedDate" (.integer .signed64) <|
  Members.maybe "offerType" (.integer .signed32) <|
  Members.maybe "offerIdentifier" .text <|
  Members.maybe "revocationDate" (.integer .signed64) <|
  Members.maybe "revocationReason" (.integer .signed32) <|
  Members.maybe "isUpgraded" .flag <|
  Members.maybe "environment" Environment.shape <|
  Members.maybe "storefront" .text <|
  Members.maybe "transactionReason" .text .nil

/-- Transactions are records. -/
def shape : Shape Transaction :=
  .via
    { apply := fun ⟨transactionId, firstTransactionId, webOrderLineItemId, bundleId, productId,
          subscriptionGroupIdentifier, purchaseDate, firstPurchaseDate, expiresDate, quantity,
          productType, appAccountToken, ownershipType, signedDate, offerType, offerIdentifier,
          revocationDate, revocationReason, isUpgraded, environment, storefront,
          transactionReason, _⟩ =>
        { transactionId, firstTransactionId, webOrderLineItemId, bundleId, productId,
          subscriptionGroupIdentifier, purchaseDate, firstPurchaseDate, expiresDate, quantity,
          productType, appAccountToken, ownershipType, signedDate, offerType, offerIdentifier,
          revocationDate, revocationReason, isUpgraded, environment, storefront,
          transactionReason }
      back := fun record =>
        (record.transactionId, record.firstTransactionId, record.webOrderLineItemId,
          record.bundleId, record.productId, record.subscriptionGroupIdentifier,
          record.purchaseDate, record.firstPurchaseDate, record.expiresDate, record.quantity,
          record.productType, record.appAccountToken, record.ownershipType, record.signedDate,
          record.offerType, record.offerIdentifier, record.revocationDate,
          record.revocationReason, record.isUpgraded, record.environment, record.storefront,
          record.transactionReason, ())
      back_apply := fun _ => rfl }
    (.record "JwsTransaction" members)

/-- When the product was bought. -/
def purchasedAt (transaction : Transaction) : Option Instant :=
  transaction.purchaseDate.bind Instant.ofMilliseconds?

/-- When the purchase ends. -/
def expiresAt (transaction : Transaction) : Option Instant :=
  transaction.expiresDate.bind Instant.ofMilliseconds?

/-- When the record was signed. -/
def signedAt (transaction : Transaction) : Option Instant :=
  transaction.signedDate.bind Instant.ofMilliseconds?

/-- Whether the purchase was taken back. -/
def isRevoked (transaction : Transaction) : Bool :=
  transaction.revocationDate.isSome

/-- Whether the purchase has ended. One without an end never has. -/
def isExpiredAt (transaction : Transaction) (now : Moment) : Bool :=
  match transaction.expiresAt with
  | some expires => expires.moment ≤ now
  | none => false

end Transaction

end SignedPurchase
