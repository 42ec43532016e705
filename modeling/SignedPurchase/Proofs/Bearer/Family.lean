import SignedPurchase.Proofs.Bearer.Turns
import SignedPurchase.Bearer.Pool
import Mathlib.Data.Finmap

/-
**A family of keepers.**

What callers with many credentials see who share keepers is what they would see of a map from
credentials to keepers that have nothing to do with each other. The map is told apart from the keepers,
since a keeper that the map forgets stays in the hands of those who have it.

* `Demand` is what callers ask for, `Deed` what they do with a keeper in their hands, and `Reply` what
  they are told;
* `Family.meet` is how a family meets a demand;
* `Family.Sound` is the invariant: the keeper of a credential is its own;
* `Family.keepers_meet`: no keeper changes that a demand does not reach;
* `Family.lookup_after` and `Family.retired_after`: a keeper is remembered until it is forgotten, and
  never again after that.
-/

namespace SignedPurchase

/-! ### Demands -/

/-- What is done with a keeper that one has in hand. -/
inductive Deed where
  | renew (now : Int) (chance : Chance)
  | provide (now : Int) (chance : Chance)
  | clear
  /-- Asks for the token that is held. -/
  | current
  /-- Asks how many tokens were made. -/
  | minted

/-- What callers ask for. -/
inductive Demand where
  /-- The keeper of a credential. -/
  | keeper (credential : Credential)
  /-- A bearer for a credential, at a reading of the clock. -/
  | bearer (credential : Credential) (now : Int) (chance : Chance)
  /-- The keeper of a credential is to be forgotten. -/
  | invalidate (credential : Credential)
  /-- How many keepers are remembered. -/
  | size
  /-- A deed with a keeper that was handed out. -/
  | deed (number : Nat) (deed : Deed)

/-- What callers are told. -/
inductive Reply where
  | nothing
  | keeper (number : Nat)
  | bearer (result : Outcome String)
  | token (result : Outcome BearerToken)
  | held (token : Option BearerToken)
  | count (count : Nat)

/-- What is told of a deed, and the keeper after it. -/
def Deed.perform : Deed → Keeper → Reply × Keeper
  | .renew now chance, keeper => (.token (keeper.renew now chance).1, (keeper.renew now chance).2)
  | .provide now chance, keeper =>
    (.bearer (keeper.provide now chance).1, (keeper.provide now chance).2)
  | .clear, keeper => (.nothing, keeper.clear)
  | .current, keeper => (.held keeper.current, keeper)
  | .minted, keeper => (.count keeper.minted, keeper)

/-- No deed gives a keeper to another credential. -/
theorem Deed.perform_credential (deed : Deed) (keeper : Keeper) :
    (deed.perform keeper).2.credential = keeper.credential := by
  cases deed with
  | renew now chance =>
    rw [perform]
    obtain ⟨token, _, made⟩ | ⟨_, _, failed⟩ := keeper.renew_cases now chance
    · rw [made, Keeper.keep_credential]
    · rw [failed]
  | provide now chance => exact keeper.turn_after_credential ⟨now, chance⟩
  | clear => rfl
  | current => rfl
  | minted => rfl

/-- The credential that a demand names. -/
def Demand.credential? : Demand → Option Credential
  | .keeper credential => some credential
  | .bearer credential _ _ => some credential
  | .invalidate credential => some credential
  | _ => none

/-- The credentials that are remembered after a demand. -/
def Demand.register (live : Finset Credential) : Demand → Finset Credential
  | .keeper credential => insert credential live
  | .bearer credential _ _ => insert credential live
  | .invalidate credential => live.erase credential
  | _ => live

/-- The credentials for which a keeper or a bearer was asked, and that were not forgotten since. -/
def live (demands : List Demand) : Finset Credential :=
  demands.foldl Demand.register ∅

/-! ### Runs -/

section Runs

variable {σ : Type} (meet : σ → Demand → Reply × σ)

/-- What demands lead to, the first of them first. -/
def afterDemands (state : σ) (demands : List Demand) : σ :=
  demands.foldl (fun state demand => (meet state demand).2) state

theorem afterDemands_append (state : σ) (before after : List Demand) :
    afterDemands meet state (before ++ after) =
      afterDemands meet (afterDemands meet state before) after :=
  List.foldl_append

/-- What is told on demands, the first of them first. -/
def repliesTo (state : σ) : List Demand → List Reply
  | [] => []
  | demand :: rest => (meet state demand).1 :: repliesTo (meet state demand).2 rest

end Runs

/-! ### Families -/

/-- A map from credentials to keepers. -/
structure Family where
  /-- All keepers that were ever made, by number. -/
  keepers : List Keeper
  /-- The numbers of the keepers that are remembered. -/
  numbers : Finmap fun _ : Credential => Nat

namespace Family

/-- Nothing is remembered yet. -/
def empty : Family := ⟨[], ∅⟩

/-- The number of a credential's keeper, which is made on first use. -/
def handle (family : Family) (credential : Credential) : Nat × Family :=
  match family.numbers.lookup credential with
  | some number => (number, family)
  | none =>
    (family.keepers.length,
      ⟨family.keepers ++ [.ofCredential credential],
        family.numbers.insert credential family.keepers.length⟩)

/-- A deed with the keeper of a number, if there is one. -/
def act (family : Family) (number : Nat) (deed : Deed) : Reply × Family :=
  match family.keepers[number]? with
  | some keeper =>
    ((deed.perform keeper).1,
      { family with keepers := family.keepers.set number (deed.perform keeper).2 })
  | none => (.nothing, family)

/-- How a demand is met. -/
def meet (family : Family) : Demand → Reply × Family
  | .keeper credential => (.keeper (family.handle credential).1, (family.handle credential).2)
  | .bearer credential now chance =>
    (family.handle credential).2.act (family.handle credential).1 (.provide now chance)
  | .invalidate credential =>
    (.nothing, { family with numbers := family.numbers.erase credential })
  | .size => (.count family.numbers.keys.card, family)
  | .deed number deed => family.act number deed

@[simp]
theorem keys_empty : empty.numbers.keys = ∅ :=
  Finmap.keys_empty

variable {family : Family} {credential other : Credential} {number : Nat} {demand : Demand}
  {keeper : Keeper}

theorem handle_of_known (known : family.numbers.lookup credential = some number) :
    family.handle credential = (number, family) := by
  rw [handle, known]

theorem handle_of_new (new : family.numbers.lookup credential = none) :
    family.handle credential =
      (family.keepers.length,
        ⟨family.keepers ++ [.ofCredential credential],
          family.numbers.insert credential family.keepers.length⟩) := by
  rw [handle, new]

@[simp]
theorem act_numbers (family : Family) (number : Nat) (deed : Deed) :
    (family.act number deed).2.numbers = family.numbers := by
  unfold act
  split <;> rfl

@[simp]
theorem act_length (family : Family) (number : Nat) (deed : Deed) :
    (family.act number deed).2.keepers.length = family.keepers.length := by
  unfold act
  split
  · exact List.length_set
  · rfl

/-- A deed leaves all other keepers alone. -/
theorem act_getElem?_of_ne {place : Nat} (apart : place ≠ number) (deed : Deed) :
    (family.act place deed).2.keepers[number]? = family.keepers[number]? := by
  unfold act
  split
  · exact List.getElem?_set_ne apart
  · rfl

theorem handle_getElem?_of_lt (within : number < family.keepers.length) (credential : Credential) :
    (family.handle credential).2.keepers[number]? = family.keepers[number]? := by
  unfold handle
  split
  · rfl
  · exact List.getElem?_append_left within

theorem length_le_handle (family : Family) (credential : Credential) :
    family.keepers.length ≤ (family.handle credential).2.keepers.length := by
  unfold handle
  split
  · exact le_refl _
  · rw [List.length_append]
    exact Nat.le_add_right _ _

theorem lookup_handle_self (family : Family) (credential : Credential) :
    (family.handle credential).2.numbers.lookup credential =
      some (family.handle credential).1 := by
  cases found : family.numbers.lookup credential with
  | some number => rw [handle_of_known found, found]
  | none => rw [handle_of_new found, Finmap.lookup_insert]

theorem lookup_handle_of_ne (apart : other ≠ credential) :
    (family.handle credential).2.numbers.lookup other = family.numbers.lookup other := by
  unfold handle
  split
  · rfl
  · exact Finmap.lookup_insert_of_ne _ apart

theorem lookup_handle_of_known (known : family.numbers.lookup other = some number)
    (credential : Credential) : (family.handle credential).2.numbers.lookup other = some number := by
  by_cases same : other = credential
  · rw [← same, handle_of_known known, known]
  · rw [lookup_handle_of_ne same, known]

/-! ### One demand -/

/-- **What is remembered after a demand.** -/
theorem meet_numbers (family : Family) (demand : Demand) :
    (family.meet demand).2.numbers =
      match demand with
      | .keeper credential => (family.handle credential).2.numbers
      | .bearer credential _ _ => (family.handle credential).2.numbers
      | .invalidate credential => family.numbers.erase credential
      | _ => family.numbers := by
  cases demand with
  | keeper credential => rfl
  | bearer credential now chance => exact act_numbers _ _ _
  | invalidate credential => rfl
  | size => rfl
  | deed number deed => exact act_numbers _ _ _

theorem length_le_meet (family : Family) (demand : Demand) :
    family.keepers.length ≤ (family.meet demand).2.keepers.length := by
  cases demand with
  | keeper credential => exact family.length_le_handle credential
  | bearer credential now chance =>
    rw [meet, act_length]
    exact family.length_le_handle credential
  | invalidate credential => exact le_refl _
  | size => exact le_refl _
  | deed number deed => rw [meet, act_length]

/-- **No keeper changes that a demand does not reach.** A demand reaches the keeper of a deed, and the
keeper that is remembered for a credential whose bearer is asked for. -/
theorem keepers_meet (held : family.keepers[number]? = some keeper)
    (deedless : ∀ deed, demand ≠ .deed number deed)
    (bearerless : ∀ credential now chance, demand = .bearer credential now chance →
      family.numbers.lookup credential ≠ some number) :
    (family.meet demand).2.keepers[number]? = some keeper := by
  have within : number < family.keepers.length := (List.getElem?_eq_some_iff.mp held).1
  cases demand with
  | keeper credential => exact (handle_getElem?_of_lt within credential).trans held
  | bearer credential now chance =>
    have apart : (family.handle credential).1 ≠ number := by
      have other := bearerless credential now chance rfl
      cases found : family.numbers.lookup credential with
      | some place =>
        rw [handle_of_known found]
        exact fun same => other (found.trans (congrArg some same))
      | none =>
        rw [handle_of_new found]
        exact Nat.ne_of_gt within
    rw [meet, act_getElem?_of_ne apart, handle_getElem?_of_lt within, held]
  | invalidate credential => exact held
  | size => exact held
  | deed place deed =>
    have apart : place ≠ number := fun same => deedless deed (same ▸ rfl)
    rw [meet, act_getElem?_of_ne apart, held]

theorem mem_keys_iff : credential ∈ family.numbers.keys ↔
    (family.numbers.lookup credential).isSome = true := by
  rw [Finmap.mem_keys, Finmap.lookup_isSome]

theorem keys_handle (family : Family) (credential : Credential) :
    (family.handle credential).2.numbers.keys = insert credential family.numbers.keys := by
  ext other
  rw [Finset.mem_insert]
  by_cases same : other = credential
  · rw [same, mem_keys_iff, lookup_handle_self]
    exact ⟨fun _ => .inl rfl, fun _ => rfl⟩
  · rw [mem_keys_iff, lookup_handle_of_ne same, ← mem_keys_iff]
    exact ⟨.inr, fun known => known.resolve_left same⟩

theorem keys_meet (family : Family) (demand : Demand) :
    (family.meet demand).2.numbers.keys = demand.register family.numbers.keys := by
  rw [meet_numbers]
  cases demand with
  | keeper credential => exact family.keys_handle credential
  | bearer credential now chance => exact family.keys_handle credential
  | invalidate credential => exact Finmap.keys_erase _ _
  | size => rfl
  | deed number deed => rfl

/-- What is remembered is what was asked for and not forgotten since. -/
theorem keys_after (family : Family) (demands : List Demand) :
    (afterDemands meet family demands).numbers.keys =
      demands.foldl Demand.register family.numbers.keys := by
  induction demands generalizing family with
  | nil => rfl
  | cons demand rest ih =>
    rw [List.foldl_cons, ← keys_meet]
    exact ih (family.meet demand).2

/-! ### Owners -/

/-- Whose keeper has a number. -/
def owner? (family : Family) (number : Nat) : Option Credential :=
  family.keepers[number]?.map (·.credential)

@[simp]
theorem owner?_act (family : Family) (place number : Nat) (deed : Deed) :
    (family.act place deed).2.owner? number = family.owner? number := by
  by_cases apart : place = number
  · subst apart
    unfold act owner?
    split
    · rename_i keeper held
      obtain ⟨within, _⟩ := List.getElem?_eq_some_iff.mp held
      rw [List.getElem?_set_self within, held, Option.map_some, Option.map_some,
        deed.perform_credential]
    · rfl
  · rw [owner?, act_getElem?_of_ne apart, owner?]

theorem owner?_handle (owned : family.owner? number = some other) (credential : Credential) :
    (family.handle credential).2.owner? number = some other := by
  obtain ⟨keeper, held, _⟩ := Option.map_eq_some_iff.mp owned
  rw [owner?, handle_getElem?_of_lt (List.getElem?_eq_some_iff.mp held).1, ← owner?, owned]

/-- Every keeper that is remembered is that of its own credential. -/
def Sound (family : Family) : Prop :=
  ∀ credential number, family.numbers.lookup credential = some number →
    family.owner? number = some credential

theorem sound_empty : empty.Sound := by
  intro credential number found
  rw [empty, Finmap.lookup_empty] at found
  cases found

theorem Sound.handle (sound : family.Sound) (credential : Credential) :
    (family.handle credential).2.Sound := by
  intro other number found
  by_cases same : other = credential
  · subst same
    cases known : family.numbers.lookup other with
    | some place =>
      rw [handle_of_known known] at found ⊢
      exact sound other number found
    | none =>
      rw [lookup_handle_self, handle_of_new known, Option.some.injEq] at found
      rw [handle_of_new known, ← found, owner?, List.getElem?_concat_length]
      rfl
  · rw [lookup_handle_of_ne same] at found
    exact owner?_handle (sound other number found) credential

theorem Sound.act (sound : family.Sound) (number : Nat) (deed : Deed) :
    (family.act number deed).2.Sound := by
  intro credential place found
  rw [act_numbers] at found
  rw [owner?_act]
  exact sound credential place found

/-- **The keeper of a credential stays its own.** -/
theorem Sound.meet (sound : family.Sound) (demand : Demand) : (family.meet demand).2.Sound := by
  cases demand with
  | keeper credential => exact sound.handle credential
  | bearer credential now chance => exact (sound.handle credential).act _ _
  | size => exact sound
  | deed number deed => exact sound.act number deed
  | invalidate credential =>
    intro other number found
    have kept : family.numbers.lookup other = some number := by
      by_cases same : other = credential
      · rw [same, Family.meet, Finmap.lookup_erase] at found
        cases found
      · rwa [Family.meet, Finmap.lookup_erase_ne same] at found
    exact sound other number kept

theorem Sound.after (sound : family.Sound) (demands : List Demand) :
    (afterDemands Family.meet family demands).Sound := by
  induction demands generalizing family with
  | nil => exact sound
  | cons demand rest ih => exact ih (sound.meet demand)

/-- **The keeper of a credential is its own**, and has nothing in it when it was made just now. -/
theorem Sound.exists_handle (sound : family.Sound) (credential : Credential) :
    ∃ keeper, (family.handle credential).2.keepers[(family.handle credential).1]? = some keeper ∧
      keeper.credential = credential ∧
      (credential ∉ family.numbers.keys →
        (family.handle credential).1 = family.keepers.length ∧
          keeper = .ofCredential credential) := by
  cases found : family.numbers.lookup credential with
  | some number =>
    obtain ⟨keeper, held, same⟩ := Option.map_eq_some_iff.mp (sound credential number found)
    rw [handle_of_known found]
    refine ⟨keeper, held, same, fun absent => ?_⟩
    rw [mem_keys_iff, found] at absent
    exact absurd rfl absent
  | none =>
    rw [handle_of_new found]
    exact ⟨_, List.getElem?_concat_length, rfl, fun _ => ⟨rfl, rfl⟩⟩

/-- Two credentials have no keeper in common. -/
theorem Sound.eq_of_lookup (sound : family.Sound)
    (here : family.numbers.lookup credential = some number)
    (there : family.numbers.lookup other = some number) : credential = other := by
  have same := (sound credential number here).symm.trans (sound other number there)
  exact Option.some.inj same

/-! ### Forgetting -/

theorem lookup_meet (kept : demand ≠ .invalidate credential)
    (known : family.numbers.lookup credential = some number) :
    (family.meet demand).2.numbers.lookup credential = some number := by
  rw [meet_numbers]
  cases demand with
  | keeper other => exact lookup_handle_of_known known other
  | bearer other now chance => exact lookup_handle_of_known known other
  | size => exact known
  | deed place deed => exact known
  | invalidate other =>
    have apart : credential ≠ other := fun same => kept (same ▸ rfl)
    exact (Finmap.lookup_erase_ne apart).trans known

/-- A keeper is remembered until it is forgotten. -/
theorem lookup_after {demands : List Demand} (kept : .invalidate credential ∉ demands)
    (known : family.numbers.lookup credential = some number) :
    (afterDemands Family.meet family demands).numbers.lookup credential = some number := by
  induction demands generalizing family with
  | nil => exact known
  | cons demand rest ih =>
    rw [List.mem_cons, not_or] at kept
    exact ih kept.2 (lookup_meet (Ne.symm kept.1) known)

/-- A number that was given to a keeper, which is forgotten. -/
structure Retired (family : Family) (number : Nat) : Prop where
  given : number < family.keepers.length
  forgotten : ∀ credential, family.numbers.lookup credential ≠ some number

theorem Retired.handle_ne (retired : family.Retired number) (credential : Credential) :
    (family.handle credential).1 ≠ number := by
  cases found : family.numbers.lookup credential with
  | some place =>
    rw [handle_of_known found]
    exact fun same => retired.forgotten credential (found.trans (congrArg some same))
  | none =>
    rw [handle_of_new found]
    exact Nat.ne_of_gt retired.given

theorem Retired.handle (retired : family.Retired number) (credential : Credential) :
    ∀ other, (family.handle credential).2.numbers.lookup other ≠ some number := by
  intro other found
  by_cases same : other = credential
  · rw [same, lookup_handle_self, Option.some.injEq] at found
    exact retired.handle_ne credential found
  · rw [lookup_handle_of_ne same] at found
    exact retired.forgotten other found

theorem Retired.meet (retired : family.Retired number) (demand : Demand) :
    (family.meet demand).2.Retired number where
  given := retired.given.trans_le (family.length_le_meet demand)
  forgotten := by
    rw [meet_numbers]
    cases demand with
    | keeper credential => exact retired.handle credential
    | bearer credential now chance => exact retired.handle credential
    | size => exact retired.forgotten
    | deed place deed => exact retired.forgotten
    | invalidate credential =>
      intro other found
      by_cases same : other = credential
      · rw [same, Finmap.lookup_erase] at found
        cases found
      · rw [Finmap.lookup_erase_ne same] at found
        exact retired.forgotten other found

/-- A keeper that was forgotten is never remembered again. -/
theorem retired_after (retired : family.Retired number) (demands : List Demand) :
    (afterDemands Family.meet family demands).Retired number := by
  induction demands generalizing family with
  | nil => exact retired
  | cons demand rest ih => exact ih (retired.meet demand)

theorem Sound.retired (sound : family.Sound)
    (known : family.numbers.lookup credential = some number) :
    (family.meet (.invalidate credential)).2.Retired number where
  given := by
    obtain ⟨keeper, held, _⟩ := Option.map_eq_some_iff.mp (sound credential number known)
    exact (List.getElem?_eq_some_iff.mp held).1
  forgotten := by
    intro other found
    by_cases same : other = credential
    · rw [same, Family.meet, Finmap.lookup_erase] at found
      cases found
    · rw [Family.meet, Finmap.lookup_erase_ne same] at found
      exact same (sound.eq_of_lookup found known)

/-- **Two callers have the same keeper** exactly when they have the same credential, and its keeper
was not forgotten in between. -/
theorem Sound.handle_eq_iff (sound : family.Sound) (between : List Demand) :
    (family.handle credential).1 =
        ((afterDemands Family.meet (family.handle credential).2 between).handle other).1 ↔
      credential = other ∧ .invalidate credential ∉ between := by
  have first := family.lookup_handle_self credential
  have handled := sound.handle credential
  generalize (family.handle credential).1 = number at first
  generalize (family.handle credential).2 = family at first handled
  by_cases kept : .invalidate credential ∉ between
  · have last := lookup_after kept first
    have later := handled.after between
    refine ⟨fun same => ⟨?_, kept⟩, ?_⟩
    · have mine := lookup_handle_of_known last other
      have theirs := lookup_handle_self (afterDemands Family.meet family between) other
      rw [← same] at theirs
      exact (later.handle other).eq_of_lookup mine theirs
    · rintro ⟨rfl, _⟩
      rw [handle_of_known last]
  -- What happened up to the forgetting kept the number, and nothing brings it back after that.
  · refine ⟨fun same => absurd same.symm ?_, fun both => absurd both.2 kept⟩
    obtain ⟨before, after, rfl, meanwhile⟩ := List.eq_append_cons_of_mem (not_not.mp kept)
    have retired := (handled.after before).retired (lookup_after meanwhile first)
    rw [afterDemands_append]
    exact (retired_after retired after).handle_ne other

end Family

end SignedPurchase
