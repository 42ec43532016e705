import SignedPurchase.Environment
import SignedPurchase.Record.Status

/-
**Replies of the store server.**

One record for each question that can be asked, and the record of an error. Signed records stand in
them as tokens.
-/

namespace SignedPurchase

open Json

/-- The latest record of a transaction. -/
structure TransactionReply where
  signedTransactionInfo : String
  deriving DecidableEq, Repr

namespace TransactionReply

/-- The members in their order. -/
def members :=
  Members.required "signedTransactionInfo" .text .nil

/-- This reply is a record. -/
def shape : Shape TransactionReply :=
  .via
    ⟨fun ⟨signedTransactionInfo, _⟩ =>
        ⟨signedTransactionInfo⟩,
      fun record => (record.signedTransactionInfo, ()),
      fun _ => rfl⟩
    (.record "TransactionInfoResponse" members)

end TransactionReply

/-- One page of the transactions of a buyer. The revision asks for the next page. -/
structure HistoryReply where
  revision : Option String
  hasMore : Bool
  bundleId : Option String
  appAppleId : Option Int64
  environment : Option Environment
  signedTransactions : List String
  deriving DecidableEq, Repr

namespace HistoryReply

/-- The members in their order. -/
def members :=
  Members.maybe "revision" .text <|
  Members.withDefault "hasMore" .flag false <|
  Members.maybe "bundleId" .text <|
  Members.maybe "appAppleId" (.integer .signed64) <|
  Members.maybe "environment" Environment.shape <|
  Members.withDefault "signedTransactions" (.list .text) [] .nil

/-- This reply is a record. -/
def shape : Shape HistoryReply :=
  .via
    ⟨fun ⟨revision, hasMore, bundleId, appAppleId, environment, signedTransactions, _⟩ =>
        ⟨revision, hasMore, bundleId, appAppleId, environment, signedTransactions⟩,
      fun record => (record.revision, record.hasMore, record.bundleId, record.appAppleId,
        record.environment, record.signedTransactions, ()),
      fun _ => rfl⟩
    (.record "HistoryResponse" members)

end HistoryReply

/-- The latest records of one subscription. -/
structure LastTransaction where
  firstTransactionId : String
  status : SubscriptionStatus
  signedTransactionInfo : String
  signedRenewalInfo : String
  deriving DecidableEq, Repr

namespace LastTransaction

/-- The members in their order. -/
def members :=
  Members.required "originalTransactionId" .text <|
  Members.required "status" SubscriptionStatus.shape <|
  Members.required "signedTransactionInfo" .text <|
  Members.required "signedRenewalInfo" .text .nil

/-- This part of a reply is a record. -/
def shape : Shape LastTransaction :=
  .via
    ⟨fun ⟨firstTransactionId, status, signedTransactionInfo, signedRenewalInfo, _⟩ =>
        ⟨firstTransactionId, status, signedTransactionInfo, signedRenewalInfo⟩,
      fun record => (record.firstTransactionId, record.status, record.signedTransactionInfo,
        record.signedRenewalInfo, ()),
      fun _ => rfl⟩
    (.record "LastTransaction" members)

end LastTransaction

/-- The subscriptions of one group. -/
structure SubscriptionGroup where
  subscriptionGroupIdentifier : String
  lastTransactions : List LastTransaction
  deriving DecidableEq, Repr

namespace SubscriptionGroup

/-- The members in their order. -/
def members :=
  Members.required "subscriptionGroupIdentifier" .text <|
  Members.withDefault "lastTransactions" (.list LastTransaction.shape) [] .nil

/-- This part of a reply is a record. -/
def shape : Shape SubscriptionGroup :=
  .via
    ⟨fun ⟨subscriptionGroupIdentifier, lastTransactions, _⟩ =>
        ⟨subscriptionGroupIdentifier, lastTransactions⟩,
      fun record => (record.subscriptionGroupIdentifier, record.lastTransactions, ()),
      fun _ => rfl⟩
    (.record "SubscriptionGroupStatus" members)

end SubscriptionGroup

/-- The subscriptions of a buyer, by group. -/
structure StatusReply where
  environment : Option Environment
  bundleId : Option String
  appAppleId : Option Int64
  data : List SubscriptionGroup
  deriving DecidableEq, Repr

namespace StatusReply

/-- The members in their order. -/
def members :=
  Members.maybe "environment" Environment.shape <|
  Members.maybe "bundleId" .text <|
  Members.maybe "appAppleId" (.integer .signed64) <|
  Members.withDefault "data" (.list SubscriptionGroup.shape) [] .nil

/-- This reply is a record. -/
def shape : Shape StatusReply :=
  .via
    ⟨fun ⟨environment, bundleId, appAppleId, data, _⟩ =>
        ⟨environment, bundleId, appAppleId, data⟩,
      fun record => (record.environment, record.bundleId, record.appAppleId, record.data, ()),
      fun _ => rfl⟩
    (.record "StatusResponse" members)

end StatusReply

/-- The transactions of an order. -/
structure OrderReply where
  status : OrderStatus
  signedTransactions : List String
  deriving DecidableEq, Repr

namespace OrderReply

/-- The members in their order. -/
def members :=
  Members.required "status" OrderStatus.shape <|
  Members.withDefault "signedTransactions" (.list .text) [] .nil

/-- This reply is a record. -/
def shape : Shape OrderReply :=
  .via
    ⟨fun ⟨status, signedTransactions, _⟩ =>
        ⟨status, signedTransactions⟩,
      fun record => (record.status, record.signedTransactions, ()),
      fun _ => rfl⟩
    (.record "OrderLookupResponse" members)

end OrderReply

/-- One page of the refunds of a buyer. The revision asks for the next page. -/
structure RefundReply where
  revision : Option String
  hasMore : Bool
  signedTransactions : List String
  deriving DecidableEq, Repr

namespace RefundReply

/-- The members in their order. -/
def members :=
  Members.maybe "revision" .text <|
  Members.withDefault "hasMore" .flag false <|
  Members.withDefault "signedTransactions" (.list .text) [] .nil

/-- This reply is a record. -/
def shape : Shape RefundReply :=
  .via
    ⟨fun ⟨revision, hasMore, signedTransactions, _⟩ =>
        ⟨revision, hasMore, signedTransactions⟩,
      fun record => (record.revision, record.hasMore, record.signedTransactions, ()),
      fun _ => rfl⟩
    (.record "RefundLookupResponse" members)

end RefundReply

/-- The name of a test notification that was asked for. -/
structure TestRequestReply where
  testNotificationToken : String
  deriving DecidableEq, Repr

namespace TestRequestReply

/-- The members in their order. -/
def members :=
  Members.required "testNotificationToken" .text .nil

/-- This reply is a record. -/
def shape : Shape TestRequestReply :=
  .via
    ⟨fun ⟨testNotificationToken, _⟩ =>
        ⟨testNotificationToken⟩,
      fun record => (record.testNotificationToken, ()),
      fun _ => rfl⟩
    (.record "SendTestNotificationResponse" members)

end TestRequestReply

/-- One attempt to send a notification. -/
structure SendAttempt where
  attemptDate : Option Int64
  sendAttemptResult : Option String
  deriving DecidableEq, Repr

namespace SendAttempt

/-- The members in their order. -/
def members :=
  Members.maybe "attemptDate" (.integer .signed64) <|
  Members.maybe "sendAttemptResult" .text .nil

/-- This part of a reply is a record. -/
def shape : Shape SendAttempt :=
  .via
    ⟨fun ⟨attemptDate, sendAttemptResult, _⟩ =>
        ⟨attemptDate, sendAttemptResult⟩,
      fun record => (record.attemptDate, record.sendAttemptResult, ()),
      fun _ => rfl⟩
    (.record "SendAttempt" members)

end SendAttempt

/-- A test notification and the attempts to send it. -/
structure TestStatusReply where
  signedPayload : String
  sendAttempts : List SendAttempt
  deriving DecidableEq, Repr

namespace TestStatusReply

/-- The members in their order. -/
def members :=
  Members.required "signedPayload" .text <|
  Members.withDefault "sendAttempts" (.list SendAttempt.shape) [] .nil

/-- This reply is a record. -/
def shape : Shape TestStatusReply :=
  .via
    ⟨fun ⟨signedPayload, sendAttempts, _⟩ =>
        ⟨signedPayload, sendAttempts⟩,
      fun record => (record.signedPayload, record.sendAttempts, ()),
      fun _ => rfl⟩
    (.record "CheckTestNotificationResponse" members)

end TestStatusReply

/-- What the server says about a request that it refuses. -/
structure ErrorReply where
  errorCode : Option Int64
  errorMessage : Option String
  deriving DecidableEq, Repr

namespace ErrorReply

/-- The members in their order. -/
def members :=
  Members.maybe "errorCode" (.integer .signed64) <|
  Members.maybe "errorMessage" .text .nil

/-- This reply is a record. -/
def shape : Shape ErrorReply :=
  .via
    ⟨fun ⟨errorCode, errorMessage, _⟩ =>
        ⟨errorCode, errorMessage⟩,
      fun record => (record.errorCode, record.errorMessage, ()),
      fun _ => rfl⟩
    (.record "ApiErrorBody" members)

end ErrorReply

end SignedPurchase
