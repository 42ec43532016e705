import SignedPurchase.Record.Notification
import SignedPurchase.Signature.Es256
import SignedPurchase.Trust.Chain

/-
**Opening signed payloads.**

A payload is shown only after the certificates of its token lead to the anchor, the header names the
one algorithm in use, and the signature over header and payload verifies with the leaf's key. The
times inside a record are not looked at: whether it is still fresh is for the caller to say.

* `TrustAnchor.verifiedPayload` is the gate, which everything else here goes through;
* `TrustAnchor.openAs` reads a payload as a shape, with `openTransaction`, `openRenewalInfo` and
  `openNotification` for the records;
* `TrustAnchor.openNotificationWithRecords` and `TrustAnchor.openTransactions` open several tokens,
  of which each must verify on its own;
* `TrustAnchor.openRecord` tells by the members of a verified payload which record it is.
-/

namespace SignedPurchase

open Json

/-- The signature of a token must verify under a key over the text before it. -/
def CompactToken.checkSignature (token : CompactToken) (key : Point) : Outcome Unit := do
  let bytes ← token.signatureBytes
  match Es256.pairOf? bytes with
  | none => .error (.invalidSignature "not a 64-byte ES256 signature")
  | some pair =>
    if Es256.verifies key token.signingInput pair then .ok ()
    else .error (.invalidSignature "signature does not match leaf certificate key")

/-- A record that was told by its members. -/
inductive SignedRecord where
  | transaction (record : Transaction)
  | renewalInfo (record : RenewalInfo)
  deriving DecidableEq, Repr

/-- A payload that is read, or the fault in it. -/
def readPayload {α : Type} : Except Fault α → Outcome α
  | .ok value => .ok value
  | .error fault => .error (.undecodedPayload fault.message)

/-- The record of a tree. A transaction is known by its identifier, renewal information by the date
of the renewal or by whether there is to be one. -/
def SignedRecord.ofTree (tree : Tree) : Outcome SignedRecord :=
  if (tree.member? "transactionId").isSome then
    (readPayload (Transaction.shape.ofTree tree)).map .transaction
  else if (tree.member? "renewalDate").isSome || (tree.member? "autoRenewStatus").isSome then
    (readPayload (RenewalInfo.shape.ofTree tree)).map .renewalInfo
  else .error (.undecodedPayload "payload is neither a transaction nor renewal info")

namespace TrustAnchor

/-! ### The gate -/

/-- The bytes of the payload of a token that is verified at an instant. -/
def verifiedPayload (anchor : TrustAnchor) (text : String) (instant : Instant) : Outcome Bytes := do
  let token ← CompactToken.parse text
  let header ← token.readHeader
  let key ← verifyHeader anchor header instant
  header.checkAlgorithm
  token.checkSignature key
  token.payloadBytes

/-- A verified payload as it is read. -/
def openWith {α : Type} (anchor : TrustAnchor) (read : Bytes → Except Fault α) (text : String)
    (instant : Instant) : Outcome α := do
  let payload ← anchor.verifiedPayload text instant
  readPayload (read payload)

/-! ### Single records -/

/-- A verified payload of a shape. -/
def openAs {α : Type} (anchor : TrustAnchor) (shape : Shape α) (text : String)
    (instant : Instant) : Outcome α :=
  anchor.openWith shape.decode text instant

/-- A verified payload as a tree. -/
def openTree (anchor : TrustAnchor) (text : String) (instant : Instant) : Outcome Tree :=
  anchor.openWith Tree.decode text instant

/-- A verified transaction. -/
def openTransaction (anchor : TrustAnchor) (text : String) (instant : Instant) :
    Outcome Transaction :=
  anchor.openAs Transaction.shape text instant

/-- Verified renewal information. -/
def openRenewalInfo (anchor : TrustAnchor) (text : String) (instant : Instant) :
    Outcome RenewalInfo :=
  anchor.openAs RenewalInfo.shape text instant

/-- A verified notification. -/
def openNotification (anchor : TrustAnchor) (text : String) (instant : Instant) :
    Outcome Notification :=
  anchor.openAs Notification.shape text instant

/-- A verified record of either kind. The kind is told after the payload is verified, so it never
bears on whether the payload is trusted. -/
def openRecord (anchor : TrustAnchor) (text : String) (instant : Instant) :
    Outcome SignedRecord := do
  let tree ← anchor.openTree text instant
  SignedRecord.ofTree tree

/-! ### Several tokens -/

/-- The record of a token, if there is a token. -/
def openMaybe {α : Type} (opening : String → Outcome α) : Option String → Outcome (Option α)
  | none => .ok none
  | some text => (opening text).map some

/-- A verified notification with the records that it carries. Each of them must verify too. -/
def openNotificationWithRecords (anchor : TrustAnchor) (text : String) (instant : Instant) :
    Outcome OpenedNotification := do
  let payload ← anchor.openNotification text instant
  let transaction ← openMaybe (anchor.openTransaction · instant)
    (payload.data.bind (·.signedTransactionInfo))
  let renewalInfo ← openMaybe (anchor.openRenewalInfo · instant)
    (payload.data.bind (·.signedRenewalInfo))
  return { payload, transaction, renewalInfo }

/-- The transactions of all tokens, or the failure of the first one that has none. -/
def openTransactions (anchor : TrustAnchor) (texts : List String) (instant : Instant) :
    Outcome (List Transaction) :=
  texts.mapM (anchor.openTransaction · instant)

end TrustAnchor

end SignedPurchase
