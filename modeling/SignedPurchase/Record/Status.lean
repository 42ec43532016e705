import SignedPurchase.Json.Shape.Integer

/-
**Statuses that are sent as codes.**

Each status has a few known codes; every other code is kept as it is, so that reading a code and
writing it again gives the same code.

* `AutoRenewStatus`, `SubscriptionStatus`, `OrderStatus` with `ofCode` and `code`;
* `SubscriptionStatus.grantsAccess` tells whether the buyer may use the product.
-/

namespace SignedPurchase

open Json

/-- A code that stands for nothing known. -/
def unknownLabel (code : Int32) : String :=
  "Unknown(" ++ integerText code.toInt ++ ")"

/-! ### Renewal -/

/-- Whether a subscription renews by itself. -/
inductive AutoRenewStatus where
  | off
  | on
  | unknown (code : Int32)
  deriving DecidableEq, Repr

namespace AutoRenewStatus

/-- The status of a code. -/
def ofCode (code : Int32) : AutoRenewStatus :=
  if code = 0 then .off else if code = 1 then .on else .unknown code

/-- The code of a status. -/
def code : AutoRenewStatus → Int32
  | .off => 0
  | .on => 1
  | .unknown code => code

/-- Codes are kept. -/
theorem code_ofCode (code : Int32) : (ofCode code).code = code := by
  unfold ofCode
  split
  · simp_all [AutoRenewStatus.code]
  · split <;> simp_all [AutoRenewStatus.code]

/-- The name of a status in diagnostics. -/
def label : AutoRenewStatus → String
  | .off => "Off"
  | .on => "On"
  | .unknown code => unknownLabel code

/-- Renewal statuses are written as codes. -/
def shape : Shape AutoRenewStatus := .code ⟨ofCode, code, code_ofCode⟩

end AutoRenewStatus

/-! ### Subscription -/

/-- The state of a subscription. -/
inductive SubscriptionStatus where
  | active
  | expired
  | billingRetry
  | gracePeriod
  | revoked
  | unknown (code : Int32)
  deriving DecidableEq, Repr

namespace SubscriptionStatus

/-- The status of a code. -/
def ofCode (code : Int32) : SubscriptionStatus :=
  if code = 1 then .active
  else if code = 2 then .expired
  else if code = 3 then .billingRetry
  else if code = 4 then .gracePeriod
  else if code = 5 then .revoked
  else .unknown code

/-- The code of a status. -/
def code : SubscriptionStatus → Int32
  | .active => 1
  | .expired => 2
  | .billingRetry => 3
  | .gracePeriod => 4
  | .revoked => 5
  | .unknown code => code

/-- Codes are kept. -/
theorem code_ofCode (code : Int32) : (ofCode code).code = code := by
  unfold ofCode
  repeat' split
  all_goals simp_all [SubscriptionStatus.code]

/-- Whether the buyer may use the product now. -/
def grantsAccess : SubscriptionStatus → Bool
  | .active => true
  | .gracePeriod => true
  | _ => false

/-- The name of a status in diagnostics. -/
def label : SubscriptionStatus → String
  | .active => "Active"
  | .expired => "Expired"
  | .billingRetry => "BillingRetry"
  | .gracePeriod => "GracePeriod"
  | .revoked => "Revoked"
  | .unknown code => unknownLabel code

/-- Subscription statuses are written as codes. -/
def shape : Shape SubscriptionStatus := .code ⟨ofCode, code, code_ofCode⟩

end SubscriptionStatus

/-! ### Orders -/

/-- Whether an order identifier is one of the store. -/
inductive OrderStatus where
  | valid
  | invalid
  | unknown (code : Int32)
  deriving DecidableEq, Repr

namespace OrderStatus

/-- The status of a code. -/
def ofCode (code : Int32) : OrderStatus :=
  if code = 0 then .valid else if code = 1 then .invalid else .unknown code

/-- The code of a status. -/
def code : OrderStatus → Int32
  | .valid => 0
  | .invalid => 1
  | .unknown code => code

/-- Codes are kept. -/
theorem code_ofCode (code : Int32) : (ofCode code).code = code := by
  unfold ofCode
  repeat' split
  all_goals simp_all [OrderStatus.code]

/-- The name of a status in diagnostics. -/
def label : OrderStatus → String
  | .valid => "Valid"
  | .invalid => "Invalid"
  | .unknown code => unknownLabel code

/-- Order statuses are written as codes. -/
def shape : Shape OrderStatus := .code ⟨ofCode, code, code_ofCode⟩

end OrderStatus

end SignedPurchase
