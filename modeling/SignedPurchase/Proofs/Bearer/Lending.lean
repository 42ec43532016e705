import SignedPurchase.Proofs.Bearer.Separation

/-
**Which keeper is lent to a caller.**

A bearer that a pool gives comes from one of its keepers. Whatever the pool was asked for before, this
keeper was made for a credential that somebody asked for, with the fingerprint of the one that is asked
for now.

* `Pool.lent` is this keeper, and `Pool.provide_fst` says that the bearer is what it gives;
* `Pool.IsNamed` is the invariant: every keeper was made for a credential that was asked for;
* `Pool.lent_credential_eq`: it is the keeper of the caller's own credential, if the fingerprints tell
  those apart that were asked for.
-/

namespace SignedPurchase

namespace Pool

variable {pool : Pool} {used : List Credential} {credential : Credential}

/-- The keeper that is handed out for a credential. -/
def lent (pool : Pool) (credential : Credential) : Keeper :=
  (pool.handle credential).2.keepers.get ⟨(pool.handle credential).1, pool.handle_lt credential⟩

/-- **The bearer of a pool is that of the keeper that it lends.** -/
theorem provide_fst (pool : Pool) (credential : Credential) (now : Int) (chance : Chance) :
    (pool.provide credential now chance).1 = ((pool.lent credential).provide now chance).1 := rfl

/-! ### Whose keepers there are -/

/-- Every keeper was made for one of some credentials. -/
def IsNamed (used : List Credential) (pool : Pool) : Prop :=
  ∀ keeper ∈ pool.keepers, keeper.credential ∈ used

theorem IsNamed.handle (named : pool.IsNamed used) (mine : credential ∈ used) :
    (pool.handle credential).2.IsNamed used := by
  unfold Pool.handle
  split
  · exact named
  · intro keeper member
    rcases List.mem_append.mp member with old | new
    · exact named keeper old
    · rw [List.mem_singleton.mp new]
      exact mine

/-- No step of a keeper makes it another's. -/
theorem IsNamed.act {α : Type} (named : pool.IsNamed used) {number : Nat}
    (within : number < pool.keepers.length) {step : Keeper → α × Keeper}
    (own : ∀ keeper, (step keeper).2.credential = keeper.credential) :
    (pool.act number within step).2.IsNamed used := by
  intro keeper member
  rw [Pool.act] at member
  rcases List.mem_or_eq_of_mem_set member with old | rfl
  · exact named keeper old
  · rw [own]
    exact named _ (List.getElem_mem within)

/-- **Keepers are made only for credentials that are asked for.** -/
theorem IsNamed.meet (named : pool.IsNamed used) {demand : Demand}
    (mine : ∀ credential ∈ demand.credential?, credential ∈ used) :
    (pool.meet demand).2.IsNamed used := by
  cases demand with
  | keeper credential => exact named.handle (mine credential rfl)
  | bearer credential now chance =>
    exact (named.handle (mine credential rfl)).act _ fun keeper =>
      keeper.turn_after_credential ⟨now, chance⟩
  | invalidate credential => exact named
  | size => exact named
  | deed number deed =>
    rw [Pool.meet]
    split
    · exact named.act _ deed.perform_credential
    · exact named

theorem isNamed_after (capacity : Nat) (demands : List Demand) :
    (after capacity demands).IsNamed (demands.filterMap Demand.credential?) := by
  have each : ∀ pool : Pool, ∀ used : List Credential, pool.IsNamed used →
      (∀ credential ∈ demands.filterMap Demand.credential?, credential ∈ used) →
      (afterDemands Pool.meet pool demands).IsNamed used := by
    induction demands with
    | nil => exact fun _ _ named _ => named
    | cons demand rest ih =>
      intro pool used named mine
      refine ih _ used (named.meet fun credential asked => mine credential ?_) fun credential asked =>
        mine credential ?_
      · exact List.mem_filterMap.mpr ⟨demand, List.mem_cons_self, asked⟩
      · obtain ⟨other, member, asked⟩ := List.mem_filterMap.mp asked
        exact List.mem_filterMap.mpr ⟨other, List.mem_cons_of_mem _ member, asked⟩
  exact each _ _ (fun _ none => absurd none List.not_mem_nil) fun _ asked => asked

/-! ### The keeper that is lent -/

variable {capacity : Nat} {demands : List Demand}

theorem IsKeyed.lent_fingerprint (keyed : pool.IsKeyed) (credential : Credential) :
    (pool.lent credential).credential.fingerprint = credential.fingerprint := by
  have marked := keyed.mark?_handle credential
  rw [mark?, List.getElem?_eq_getElem (pool.handle_lt credential), Option.map_some] at marked
  exact Option.some.inj marked

/-- **A keeper is lent to those with its own credential**, if no other credential that was asked for
before has the same fingerprint. -/
theorem lent_credential_eq (capacity : Nat)
    (apart : ∀ other ∈ demands.filterMap Demand.credential?,
      other.fingerprint = credential.fingerprint → other = credential) :
    ((after capacity demands).lent credential).credential = credential := by
  have mark := (isKeyed_after capacity demands).lent_fingerprint credential
  have named : (after capacity demands).IsNamed (credential :: demands.filterMap Demand.credential?) :=
    fun keeper member => List.mem_cons_of_mem _ (isNamed_after capacity demands keeper member)
  rcases List.mem_cons.mp (named.handle List.mem_cons_self _ (List.get_mem _ _)) with own | asked
  · exact own
  · exact apart _ asked mark

end Pool

end SignedPurchase
