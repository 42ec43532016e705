import SignedPurchase.Bearer.Keeper

/-
**Keepers shared by credential.**

A pool has one keeper for each credential, which all callers with that credential share. Credentials
are told apart by their fingerprints. A keeper that was handed out stays in the hands of its callers
when the pool forgets it, so every keeper has a number of its own that is never given to another.

* `Pool.handle` gives the number of a credential's keeper, which is made on first use;
* `Pool.act` takes a step with the keeper of a number, `Pool.provide` gives a credential's bearer;
* `Pool.invalidate` forgets the keeper of a credential;
* `Pool.settle` forgets the latest keepers beyond the capacity. A pool without capacity never
  remembers any.
-/

namespace SignedPurchase

/-- One keeper for each credential. -/
structure Pool where
  /-- How many keepers are remembered. -/
  capacity : Nat
  /-- All keepers that were ever made, by number. -/
  keepers : List Keeper
  /-- The fingerprints of the remembered credentials with the numbers of their keepers, the oldest
  first. -/
  entries : List (String × Nat)
  /-- Every remembered number is that of a keeper. -/
  known : ∀ entry ∈ entries, entry.2 < keepers.length

namespace Pool

/-- How many keepers are remembered, unless something else is said. -/
def usualCapacity : Nat := 1024

/-- The pool that remembers no keeper yet. -/
def ofCapacity (capacity : Nat) : Pool :=
  ⟨capacity, [], [], by simp⟩

/-- The number of the keeper that is remembered for a credential. -/
def number? (pool : Pool) (credential : Credential) : Option Nat :=
  pool.entries.lookup credential.fingerprint

/-- Makes a keeper for a credential, and remembers it if there is any capacity. -/
def register (pool : Pool) (credential : Credential) : Pool where
  capacity := pool.capacity
  keepers := pool.keepers ++ [.ofCredential credential]
  entries :=
    if pool.capacity = 0 then pool.entries
    else pool.entries ++ [(credential.fingerprint, pool.keepers.length)]
  known entry member := by
    have old (found : entry ∈ pool.entries) : entry.2 < pool.keepers.length :=
      pool.known entry found
    split at member
    · simpa using Nat.lt_succ_of_lt (old member)
    · rcases List.mem_append.mp member with found | found
      · simpa using Nat.lt_succ_of_lt (old found)
      · simp_all

/-- The number of a credential's keeper, which is made on first use. -/
def handle (pool : Pool) (credential : Credential) : Nat × Pool :=
  match pool.number? credential with
  | some number => (number, pool)
  | none => (pool.keepers.length, pool.register credential)

/-- What is looked up stands in the list. -/
theorem mem_of_lookup {entries : List (String × Nat)} {name : String} {number : Nat}
    (found : entries.lookup name = some number) : (name, number) ∈ entries := by
  induction entries with
  | nil => simp at found
  | cons entry rest ih =>
    obtain ⟨other, value⟩ := entry
    rw [List.lookup_cons] at found
    split at found
    · simp_all
    · exact List.mem_cons_of_mem _ (ih found)

/-- The number that is handed out is that of a keeper. -/
theorem handle_lt (pool : Pool) (credential : Credential) :
    (pool.handle credential).1 < (pool.handle credential).2.keepers.length := by
  unfold handle
  split
  · next number found => exact pool.known _ (mem_of_lookup found)
  · simp [register]

/-- Takes a step with the keeper of a number. -/
def act {α : Type} (pool : Pool) (number : Nat) (within : number < pool.keepers.length)
    (step : Keeper → α × Keeper) : α × Pool :=
  match step pool.keepers[number] with
  | (result, after) =>
    (result,
      { pool with
        keepers := pool.keepers.set number after
        known := fun entry member => by simpa using pool.known entry member })

/-- A bearer of a credential, for which a token is made first if there is no valid one. -/
def provide (pool : Pool) (credential : Credential) (now : Int) (chance : Chance) :
    Outcome String × Pool :=
  (pool.handle credential).2.act (pool.handle credential).1 (pool.handle_lt credential)
    fun keeper => keeper.provide now chance

/-- Forgets the keeper of a credential. -/
def invalidate (pool : Pool) (credential : Credential) : Pool :=
  { pool with
    entries := pool.entries.filter fun entry => entry.1 != credential.fingerprint
    known := fun entry member => pool.known entry (List.mem_filter.mp member).1 }

/-- Forgets the latest keepers beyond the capacity. -/
def settle (pool : Pool) : Pool :=
  { pool with
    entries := pool.entries.take pool.capacity
    known := fun entry member => pool.known entry (List.mem_of_mem_take member) }

/-- How many keepers are remembered. -/
def size (pool : Pool) : Nat :=
  pool.entries.length

/-- A pool as diagnostics show it. -/
def diagnostic (pool : Pool) : String :=
  "TokenCache \x7b entries: " ++ Json.integerText pool.size ++ " \x7d"

end Pool

end SignedPurchase
