import SignedPurchase.Bearer.Keeper
import SignedPurchase.Client.Endpoint
import SignedPurchase.Client.Response
import SignedPurchase.Configuration.Basic
import SignedPurchase.Trust.Opening
import SignedPurchase.Url.Basic

/-
**Clients of the store server.**

A client knows where the server is and whom to trust. Each call sends at most one request, which
carries a bearer from a keeper that may be shared with other clients; nothing is ever sent again. A
call has two halves, between which others may use the keeper:

* `Client.request` obtains the bearer and makes the request;
* `Client.conclude` reads the response. A response that rejects the bearer makes the keeper forget its
  token.

`Client.call` puts the halves together around whatever carries the request, and
`Client.verifiedTransaction` opens the record that comes back.
-/

namespace SignedPurchase

/-- Where the server is, and whom to trust. -/
structure Client where
  /-- The address of the server, without a slash at the end. -/
  address : String
  anchor : TrustAnchor

/-- What is sent. -/
structure Request where
  method : Method
  url : Url
  bearer : String
  deriving DecidableEq, Repr

/-- What comes back: a response, or nothing and the reason for it. -/
inductive Arrival where
  | response (response : Response)
  | nothing (reason : String)
  deriving DecidableEq, Repr

namespace Request

/-- The name under which requests are made. -/
def userAgent : String := "iap-appstore/0.4.0"

/-- The kind of content that is meant. -/
def contentType : String := "application/json"

/-- What proves that the sender may ask. -/
def authorization (request : Request) : String :=
  "Bearer " ++ request.bearer

/-- The path and the query. -/
def target (request : Request) : String :=
  request.url.target

/-- What stands before the body of every request. -/
def headers (request : Request) : List (String × String) :=
  [("authorization", request.authorization), ("content-type", contentType),
    ("user-agent", userAgent)]

end Request

/-- A call and what came of it: the result, the keeper, and the request if one was sent. -/
structure Exchange (α : Type) where
  result : Outcome α
  keeper : Keeper
  sent : Option Request

namespace Client

/-- A client as configured. -/
def ofConfiguration (config : Configuration) (anchor : TrustAnchor) : Outcome Client :=
  match config.address with
  | .ok address => .ok ⟨address, anchor⟩
  | .error failure => .error failure

/-- The address of a question, if it is one of the web. -/
def url? {α : Type} (client : Client) (endpoint : Endpoint α) : Option Url :=
  (Url.ofText? (client.address ++ endpoint.path)).map fun url =>
    match endpoint.revision with
    | some revision => url.withField "revision" revision
    | none => url

/-- The request for a question with a bearer. -/
def requestWith {α : Type} (client : Client) (endpoint : Endpoint α) (bearer : String) :
    Outcome Request :=
  match client.url? endpoint with
  | some url => .ok ⟨endpoint.method, url, bearer⟩
  | none => .error (.network "not an address of the web")

/-- The first half of a call: the bearer is obtained before the address is looked at. -/
def request {α : Type} (client : Client) (endpoint : Endpoint α) (now : Int) (chance : Chance)
    (keeper : Keeper) : Outcome Request × Keeper :=
  match keeper.provide now chance with
  | (.ok bearer, keeper) => (client.requestWith endpoint bearer, keeper)
  | (.error failure, keeper) => (.error failure, keeper)

/-- The keeper after what came back. -/
def afterArrival (keeper : Keeper) : Arrival → Keeper
  | .response response => if response.rejectsBearer then keeper.clear else keeper
  | .nothing _ => keeper

/-- The second half of a call. -/
def conclude {α : Type} (endpoint : Endpoint α) (arrival : Arrival) (keeper : Keeper) :
    Outcome α × Keeper :=
  (match arrival with
    | .response response => response.reply endpoint.path endpoint.shape
    | .nothing reason => .error (.network reason),
    afterArrival keeper arrival)

/-- A call, with whatever carries the request. -/
def call {α : Type} (client : Client) (endpoint : Endpoint α) (now : Int) (chance : Chance)
    (keeper : Keeper) (carry : Request → Arrival) : Exchange α :=
  match client.request endpoint now chance keeper with
  | (.ok request, keeper) =>
    match conclude endpoint (carry request) keeper with
    | (result, keeper) => ⟨result, keeper, some request⟩
  | (.error failure, keeper) => ⟨.error failure, keeper, none⟩

/-- Asks for a transaction and opens its record. -/
def verifiedTransaction (client : Client) (id : String) (now : Int) (chance : Chance)
    (keeper : Keeper) (carry : Request → Arrival) : Exchange Transaction :=
  let exchange := client.call (.transaction id) now chance keeper carry
  { exchange with
    result := exchange.result.bind fun reply =>
      client.anchor.openTransaction reply.signedTransactionInfo (.ofSeconds now) }

end Client

end SignedPurchase
