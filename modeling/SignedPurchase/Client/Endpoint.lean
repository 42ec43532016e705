import SignedPurchase.Record.Reply

/-
**What can be asked of the store server.**

Each question has its path, and its reply has a shape. Two questions are answered in pages, and a
revision asks for the page after the one that named it.

* `Endpoint α` is a question whose reply is an `α`;
* `Endpoint.path`, `Endpoint.method` and `Endpoint.revision` say how it is asked;
* `Endpoint.shape` says how its reply is written.
-/

namespace SignedPurchase

open Json

/-- How a request is made. -/
inductive Method where
  | get
  | post
  deriving DecidableEq, Repr

/-- The name of a method. -/
def Method.name : Method → String
  | .get => "GET"
  | .post => "POST"

/-- A question to the server, with the type of its reply. -/
inductive Endpoint : Type → Type where
  /-- The latest record of a transaction. -/
  | transaction (id : String) : Endpoint TransactionReply
  /-- A page of the transactions of a buyer. -/
  | history (firstId : String) (revision : Option String) : Endpoint HistoryReply
  /-- The state of all subscriptions of a buyer. -/
  | subscriptions (firstId : String) : Endpoint StatusReply
  /-- The transactions of an order. -/
  | order (orderId : String) : Endpoint OrderReply
  /-- A page of the transactions of a buyer that were taken back. -/
  | refunds (firstId : String) (revision : Option String) : Endpoint RefundReply
  /-- Asks for a test notification. -/
  | testRequest : Endpoint TestRequestReply
  /-- What became of a test notification. -/
  | testStatus (token : String) : Endpoint TestStatusReply

namespace Endpoint

/-- The path of a question, after the address of the server. -/
def path {α : Type} : Endpoint α → String
  | .transaction id => "/inApps/v1/transactions/" ++ id
  | .history firstId _ => "/inApps/v1/history/" ++ firstId
  | .subscriptions firstId => "/inApps/v1/subscriptions/" ++ firstId
  | .order orderId => "/inApps/v1/lookup/" ++ orderId
  | .refunds firstId _ => "/inApps/v2/refund/lookup/" ++ firstId
  | .testRequest => "/inApps/v1/notifications/test"
  | .testStatus token => "/inApps/v1/notifications/test/" ++ token

/-- How a question is asked. -/
def method {α : Type} : Endpoint α → Method
  | .testRequest => .post
  | _ => .get

/-- The page that is asked for. -/
def revision {α : Type} : Endpoint α → Option String
  | .history _ revision => revision
  | .refunds _ revision => revision
  | _ => none

/-- How the reply is written. -/
def shape {α : Type} : Endpoint α → Shape α
  | .transaction _ => TransactionReply.shape
  | .history _ _ => HistoryReply.shape
  | .subscriptions _ => StatusReply.shape
  | .order _ => OrderReply.shape
  | .refunds _ _ => RefundReply.shape
  | .testRequest => TestRequestReply.shape
  | .testStatus _ => TestStatusReply.shape

end Endpoint

end SignedPurchase
