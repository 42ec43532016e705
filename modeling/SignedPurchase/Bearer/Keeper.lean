import SignedPurchase.Bearer.Token

/-
**Keepers of bearer tokens.**

A keeper holds the latest bearer token of one credential and makes a new one only when there is none or
when the time of the latest is over. Every step here is done by one caller at a time. The clock is read
by the caller, for `Keeper.provide` before its turn comes.

* `Keeper.provide` gives a bearer, making a token first if it must;
* `Keeper.renew` makes a token in any case, and keeps all as it was when it cannot;
* `Keeper.clear` forgets the token.
-/

namespace SignedPurchase

/-- The latest bearer token of a credential, and how many were made. -/
structure Keeper where
  credential : Credential
  current : Option BearerToken
  minted : Nat
  deriving DecidableEq, Repr

namespace Keeper

/-- A keeper that has made no token yet. -/
def ofCredential (credential : Credential) : Keeper :=
  ⟨credential, none, 0⟩

/-- Keeps a token that was just made. -/
def keep (keeper : Keeper) (token : BearerToken) : Keeper :=
  { keeper with current := some token, minted := keeper.minted + 1 }

/-- Makes a new token. -/
def renew (keeper : Keeper) (now : Int) (chance : Chance) : Outcome BearerToken × Keeper :=
  match keeper.credential.mint now chance with
  | .ok token => (.ok token, keeper.keep token)
  | .error failure => (.error failure, keeper)

/-- The latest token, unless its time is over. -/
def valid? (keeper : Keeper) (now : Int) : Option BearerToken :=
  keeper.current.filter fun token => !token.isExpiredAt now

/-- The text of a valid token, which is made first if there is none. -/
def provide (keeper : Keeper) (now : Int) (chance : Chance) : Outcome String × Keeper :=
  match keeper.valid? now with
  | some token => (.ok token.text, keeper)
  | none =>
    match keeper.renew now chance with
    | (result, after) => (result.map (·.text), after)

/-- Whether there is no token, or the time of the latest is over. -/
def isExpiredAt (keeper : Keeper) (now : Int) : Bool :=
  keeper.current.all (·.isExpiredAt now)

/-- Forgets the token. -/
def clear (keeper : Keeper) : Keeper :=
  { keeper with current := none }

/-- A keeper as diagnostics show it. -/
def diagnostic (keeper : Keeper) : String :=
  "AuthTokenManager \x7b credential: " ++ keeper.credential.diagnostic ++ ", minted: " ++
    Json.integerText keeper.minted ++ " \x7d"

end Keeper

end SignedPurchase
