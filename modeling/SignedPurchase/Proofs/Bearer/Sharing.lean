import SignedPurchase.Proofs.Bearer.Family
import SignedPurchase.Proofs.Bearer.Fingerprint

/-
**Pools of shared keepers.**

A pool tells credentials apart by their fingerprints and may forget keepers beyond its capacity. As long
as no two spellings in use have the same digest, and no more are remembered than there is room for,
nobody can tell it from a family of keepers that have nothing to do with each other.

* `Orderly` says this of a run;
* `Mirrors` is how a pool stands for a family, which every demand preserves (`Mirrors.meet`);
* `Pool.shares` puts together what callers see in every orderly run;
* `Specimen.pool_shares` is a run in which a keeper is forgotten but stays in use.
-/

namespace SignedPurchase

namespace Pool

/-- How a pool meets a demand. Keepers are in the hands of callers only after they were made. -/
def meet (pool : Pool) : Demand → Reply × Pool
  | .keeper credential => (.keeper (pool.handle credential).1, (pool.handle credential).2)
  | .bearer credential now chance =>
    (.bearer (pool.provide credential now chance).1, (pool.provide credential now chance).2)
  | .invalidate credential => (.nothing, pool.invalidate credential)
  | .size => (.count pool.settle.size, pool.settle)
  | .deed number deed =>
    if within : number < pool.keepers.length then pool.act number within deed.perform
    else (.nothing, pool)

/-- A new pool after demands. -/
def after (capacity : Nat) (demands : List Demand) : Pool :=
  afterDemands meet (ofCapacity capacity) demands

/-- What is told on a demand after others. -/
def reply (capacity : Nat) (demands : List Demand) (demand : Demand) : Reply :=
  ((after capacity demands).meet demand).1

end Pool

/-- A run for which a pool has room, and in which no two credentials have the same digest. -/
structure Orderly (capacity : Nat) (demands : List Demand) : Prop where
  /-- The fields of all credentials are short enough for their lengths to be written. -/
  measurable : ∀ credential ∈ demands.filterMap Demand.credential?, credential.IsMeasurable
  /-- No two spellings have the same digest. -/
  apart : ∀ credential ∈ demands.filterMap Demand.credential?,
    ∀ other ∈ demands.filterMap Demand.credential?,
    Digest.sha256 credential.spelling = Digest.sha256 other.spelling →
      credential.spelling = other.spelling
  /-- There is room for all credentials that are remembered at any time. -/
  room : ∀ earlier, earlier <+: demands → (live earlier).card ≤ capacity

/-! ### Entries -/

section Entries

variable {entries : List (String × Nat)} {name other : String}

theorem lookup_eq_none_iff_not_mem :
    entries.lookup name = none ↔ name ∉ entries.map (·.1) := by
  rw [List.lookup_eq_none_iff]
  refine ⟨?_, ?_⟩
  · intro strange member
    obtain ⟨entry, found, rfl⟩ := List.mem_map.mp member
    exact absurd rfl (bne_iff_ne.mp (strange entry found))
  · intro absent entry found
    exact bne_iff_ne.mpr fun same => absent (same ▸ List.mem_map_of_mem found)

theorem map_filter_name :
    (entries.filter fun entry => entry.1 != name).map (·.1) =
      (entries.map (·.1)).filter (· != name) := by
  rw [List.filter_map]
  rfl

theorem lookup_filter_self : (entries.filter fun entry => entry.1 != name).lookup name = none := by
  rw [lookup_eq_none_iff_not_mem, map_filter_name, List.mem_filter]
  rintro ⟨_, other⟩
  exact absurd rfl (bne_iff_ne.mp other)

theorem lookup_filter_of_ne (apart : other ≠ name) :
    (entries.filter fun entry => entry.1 != name).lookup other = entries.lookup other := by
  induction entries with
  | nil => rfl
  | cons entry rest ih =>
    obtain ⟨first, number⟩ := entry
    by_cases gone : first = name
    · have passed : (other == first) = false := beq_eq_false_iff_ne.mpr (gone ▸ apart)
      rw [List.filter_cons, if_neg (by simp [gone]), ih, List.lookup_cons, passed]
    · rw [List.filter_cons, if_pos (bne_iff_ne.mpr gone), List.lookup_cons, List.lookup_cons, ih]

/-- Names that stand once are taken away one at a time. -/
theorem length_filter_name (name : String) (single : (entries.map (·.1)).Nodup) :
    (entries.filter fun entry => entry.1 != name).length =
      entries.length - if name ∈ entries.map (·.1) then 1 else 0 := by
  rw [← List.length_map (·.1), map_filter_name, ← single.erase_eq_filter, List.length_erase,
    List.length_map]
  split <;> rfl

end Entries

/-! ### A pool that stands for a family -/

/-- A pool stands for a family when it has the same keepers and remembers them for the same
credentials, each once. -/
structure Mirrors (used : List Credential) (pool : Pool) (family : Family) : Prop where
  keepers : pool.keepers = family.keepers
  number : ∀ credential ∈ used, pool.number? credential = family.numbers.lookup credential
  single : (pool.entries.map (·.1)).Nodup
  size : pool.size = family.numbers.keys.card

namespace Mirrors

variable {used : List Credential} {pool : Pool} {family : Family} {credential : Credential}

theorem ofCapacity (used : List Credential) (capacity : Nat) :
    Mirrors used (.ofCapacity capacity) .empty where
  keepers := rfl
  number := fun _ _ => rfl
  single := List.nodup_nil
  size := rfl

theorem register (mirrors : Mirrors used pool family)
    (apart : ∀ other ∈ used, credential.fingerprint = other.fingerprint → credential = other)
    (mine : credential ∈ used) (capacious : pool.capacity ≠ 0)
    (new : family.numbers.lookup credential = none) :
    Mirrors used (pool.register credential) (family.handle credential).2 := by
  have strange : pool.number? credential = none := (mirrors.number credential mine).trans new
  have entries : (pool.register credential).entries =
      pool.entries ++ [(credential.fingerprint, pool.keepers.length)] := if_neg capacious
  have absent : credential ∉ family.numbers.keys := by
    rw [Family.mem_keys_iff, new]
    decide
  refine ⟨?_, ?_, ?_, ?_⟩
  · rw [Family.handle_of_new new]
    exact congrArg (· ++ [Keeper.ofCredential credential]) mirrors.keepers
  -- The new entry stands last, so it is found only where there was none before.
  · intro other theirs
    rw [Pool.number?, entries, List.lookup_append, ← Pool.number?]
    by_cases same : other = credential
    · subst same
      rw [strange, Option.none_or, List.lookup_cons_self, Family.lookup_handle_self,
        Family.handle_of_new new, mirrors.keepers]
    · have passed : (other.fingerprint == credential.fingerprint) = false :=
        beq_eq_false_iff_ne.mpr fun alike => same (apart other theirs alike.symm).symm
      rw [List.lookup_cons, passed, List.lookup_nil, Option.or_none,
        mirrors.number other theirs, Family.lookup_handle_of_ne same]
  · rw [entries, List.map_append, List.map_singleton, List.nodup_append_comm, List.singleton_append,
      List.nodup_cons]
    exact ⟨lookup_eq_none_iff_not_mem.mp strange, mirrors.single⟩
  · rw [Pool.size, entries, List.length_append, ← Pool.size, mirrors.size, Family.keys_handle,
      Finset.card_insert_of_notMem absent, List.length_singleton]

/-- **A keeper has the same number in the pool and in the family.** -/
theorem handle (mirrors : Mirrors used pool family)
    (apart : ∀ other ∈ used, credential.fingerprint = other.fingerprint → credential = other)
    (mine : credential ∈ used)
    (room : (family.handle credential).2.numbers.keys.card ≤ pool.capacity) :
    (pool.handle credential).1 = (family.handle credential).1 ∧
      Mirrors used (pool.handle credential).2 (family.handle credential).2 := by
  have same : pool.number? credential = family.numbers.lookup credential :=
    mirrors.number credential mine
  cases found : family.numbers.lookup credential with
  | some number =>
    rw [found] at same
    rw [Family.handle_of_known found, Pool.handle, same]
    exact ⟨rfl, mirrors⟩
  | none =>
    rw [found] at same
    have capacious : pool.capacity ≠ 0 := by
      rw [Family.keys_handle] at room
      exact Nat.ne_of_gt ((Finset.card_pos.mpr (Finset.insert_nonempty _ _)).trans_le room)
    have registered := mirrors.register apart mine capacious found
    rw [Pool.handle, same]
    exact ⟨by rw [Family.handle_of_new found, mirrors.keepers], registered⟩

/-- **A deed has the same outcome in the pool and in the family.** -/
theorem act (mirrors : Mirrors used pool family) {number : Nat}
    (within : number < pool.keepers.length) (deed : Deed) :
    (pool.act number within deed.perform).1 = (family.act number deed).1 ∧
      Mirrors used (pool.act number within deed.perform).2 (family.act number deed).2 := by
  have held : family.keepers[number]? = some pool.keepers[number] := by
    rw [← mirrors.keepers, List.getElem?_eq_getElem within]
  rw [Family.act, held]
  have kept := congrArg (·.set number (deed.perform pool.keepers[number]).2) mirrors.keepers
  exact ⟨rfl, kept, mirrors.number, mirrors.single, mirrors.size⟩

theorem invalidate (mirrors : Mirrors used pool family)
    (apart : ∀ other ∈ used, credential.fingerprint = other.fingerprint → credential = other)
    (mine : credential ∈ used) :
    Mirrors used (pool.invalidate credential)
      (family.meet (.invalidate credential)).2 := by
  refine ⟨mirrors.keepers, ?_, ?_, ?_⟩
  · intro other theirs
    rw [Pool.number?, Pool.invalidate, Family.meet]
    by_cases same : other = credential
    · rw [same, lookup_filter_self, Finmap.lookup_erase]
    · have alike : other.fingerprint ≠ credential.fingerprint :=
        fun alike => same (apart other theirs alike.symm).symm
      rw [lookup_filter_of_ne alike, Finmap.lookup_erase_ne same]
      exact mirrors.number other theirs
  · show ((pool.entries.filter _).map _).Nodup
    rw [map_filter_name]
    exact mirrors.single.filter _
  -- There is one less exactly when the credential was remembered.
  · have known : credential.fingerprint ∈ pool.entries.map (·.1) ↔
        credential ∈ family.numbers.keys := by
      rw [Family.mem_keys_iff, ← mirrors.number credential mine, Option.isSome_iff_ne_none, ne_eq,
        Pool.number?, lookup_eq_none_iff_not_mem, not_not]
    have length := length_filter_name credential.fingerprint mirrors.single
    rw [← Pool.size, mirrors.size, if_congr known rfl rfl] at length
    rw [Family.meet, Finmap.keys_erase, Finset.card_erase_eq_ite]
    refine length.trans ?_
    split
    · rfl
    · exact Nat.sub_zero _

/-- Nothing is forgotten as long as there is room. -/
theorem settle (mirrors : Mirrors used pool family)
    (room : family.numbers.keys.card ≤ pool.capacity) : Mirrors used pool.settle family := by
  have all : pool.settle.entries = pool.entries :=
    List.take_of_length_le (mirrors.size.le.trans room)
  refine ⟨mirrors.keepers, ?_, ?_, ?_⟩
  · intro credential mine
    rw [Pool.number?, all, ← Pool.number?, mirrors.number credential mine]
  · rw [all]
    exact mirrors.single
  · rw [Pool.size, all, ← Pool.size, mirrors.size]

/-- **A demand is met alike by the pool and by the family.** -/
theorem meet (mirrors : Mirrors used pool family)
    (apart : ∀ credential ∈ used, ∀ other ∈ used,
      credential.fingerprint = other.fingerprint → credential = other)
    {demand : Demand} (mine : ∀ credential ∈ demand.credential?, credential ∈ used)
    (room : (family.meet demand).2.numbers.keys.card ≤ pool.capacity) :
    (pool.meet demand).1 = (family.meet demand).1 ∧
      Mirrors used (pool.meet demand).2 (family.meet demand).2 := by
  cases demand with
  | keeper credential =>
    have used := mine credential rfl
    obtain ⟨same, after⟩ := mirrors.handle (apart credential used) used room
    exact ⟨congrArg Reply.keeper same, after⟩
  | bearer credential now chance =>
    have used := mine credential rfl
    rw [Family.meet, Family.act_numbers] at room
    obtain ⟨same, handled⟩ := mirrors.handle (apart credential used) used room
    have acted := handled.act (pool.handle_lt credential) (.provide now chance)
    rw [Family.meet, ← same]
    exact acted
  | invalidate credential =>
    have used := mine credential rfl
    exact ⟨rfl, mirrors.invalidate (apart credential used) used⟩
  | size =>
    have settled := mirrors.settle room
    exact ⟨congrArg Reply.count settled.size, settled⟩
  | deed number deed =>
    by_cases within : number < pool.keepers.length
    · rw [Pool.meet, dif_pos within]
      exact mirrors.act within deed
    · have absent : family.keepers[number]? = none := by
        rw [← mirrors.keepers, List.getElem?_eq_none (Nat.not_lt.mp within)]
      rw [Pool.meet, dif_neg within, Family.meet, Family.act, absent]
      exact ⟨rfl, mirrors⟩

end Mirrors

theorem Pool.meet_capacity (pool : Pool) (demand : Demand) :
    (pool.meet demand).2.capacity = pool.capacity := by
  have handled : ∀ credential, (pool.handle credential).2.capacity = pool.capacity := by
    intro credential
    unfold handle
    split <;> rfl
  cases demand with
  | keeper credential => exact handled credential
  | bearer credential now chance => exact handled credential
  | invalidate credential => rfl
  | size => rfl
  | deed number deed =>
    rw [meet]
    split <;> rfl

/-- **All demands are met alike**, one after the other. -/
theorem Mirrors.run {used : List Credential} {pool : Pool} {family : Family}
    (mirrors : Mirrors used pool family)
    (apart : ∀ credential ∈ used, ∀ other ∈ used,
      credential.fingerprint = other.fingerprint → credential = other)
    {demands : List Demand}
    (mine : ∀ credential ∈ demands.filterMap Demand.credential?, credential ∈ used)
    (room : ∀ earlier, earlier <+: demands →
      (afterDemands Family.meet family earlier).numbers.keys.card ≤ pool.capacity) :
    repliesTo Pool.meet pool demands = repliesTo Family.meet family demands ∧
      Mirrors used (afterDemands Pool.meet pool demands)
        (afterDemands Family.meet family demands) := by
  induction demands generalizing pool family with
  | nil => exact ⟨rfl, mirrors⟩
  | cons demand rest ih =>
    have first : ∀ credential ∈ demand.credential?, credential ∈ used := fun credential named =>
      mine credential (List.mem_filterMap.mpr ⟨demand, List.mem_cons_self, named⟩)
    have later : ∀ credential ∈ rest.filterMap Demand.credential?, credential ∈ used := by
      intro credential named
      obtain ⟨other, member, named⟩ := List.mem_filterMap.mp named
      exact mine credential (List.mem_filterMap.mpr ⟨other, List.mem_cons_of_mem _ member, named⟩)
    obtain ⟨told, after⟩ := mirrors.meet apart first
      (room [demand] (List.prefix_cons_inj demand |>.mpr List.nil_prefix))
    obtain ⟨replies, last⟩ := ih after later fun earlier begins => by
      rw [Pool.meet_capacity]
      exact room (demand :: earlier) ((List.prefix_cons_inj demand).mpr begins)
    exact ⟨congrArg₂ List.cons told replies, last⟩

/-! ### Orderly runs -/

theorem Pool.capacity_after (capacity : Nat) (demands : List Demand) :
    (Pool.after capacity demands).capacity = capacity := by
  have each : ∀ pool : Pool, (afterDemands meet pool demands).capacity = pool.capacity := by
    induction demands with
    | nil => exact fun pool => rfl
    | cons demand rest ih => exact fun pool => (ih _).trans (pool.meet_capacity demand)
  exact each (ofCapacity capacity)

/-- The family that a pool stands for after demands. -/
def Family.after (demands : List Demand) : Family :=
  afterDemands meet empty demands

theorem Family.after_append (before after : List Demand) :
    Family.after (before ++ after) = afterDemands meet (Family.after before) after :=
  List.foldl_append

theorem Family.sound_after (demands : List Demand) : (Family.after demands).Sound :=
  sound_empty.after demands

theorem Family.keys_after_empty (demands : List Demand) :
    (Family.after demands).numbers.keys = live demands :=
  empty.keys_after demands

namespace Orderly

variable {capacity : Nat} {demands before between : List Demand} {demand : Demand}
  {credential other : Credential} {number : Nat} {keeper : Keeper}

theorem eq_of_fingerprint (orderly : Orderly capacity demands) :
    ∀ credential ∈ demands.filterMap Demand.credential?,
    ∀ other ∈ demands.filterMap Demand.credential?,
    credential.fingerprint = other.fingerprint → credential = other := by
  intro credential mine other theirs same
  have spelled := orderly.apart credential mine other theirs (Credential.fingerprint_eq_iff.mp same)
  exact Credential.eq_of_spelling (orderly.measurable credential mine)
    (orderly.measurable other theirs) spelled

theorem mem_of_prefix (begins : before <+: demands)
    (named : credential ∈ before.filterMap Demand.credential?) :
    credential ∈ demands.filterMap Demand.credential? :=
  (begins.sublist.filterMap _).subset named

/-- **In an orderly run, a pool stands for a family**, and all that is told is told alike. -/
theorem run (orderly : Orderly capacity demands) (begins : before <+: demands) :
    repliesTo Pool.meet (.ofCapacity capacity) before = repliesTo Family.meet .empty before ∧
      Mirrors (demands.filterMap Demand.credential?) (Pool.after capacity before)
        (Family.after before) := by
  refine Mirrors.run (.ofCapacity _ capacity) orderly.eq_of_fingerprint
    (fun _ named => mem_of_prefix begins named) ?_
  intro earlier first
  rw [Family.keys_after]
  exact orderly.room earlier (first.trans begins)

/-- The next demand of an orderly run is met alike by the pool and by the family. -/
theorem meet (orderly : Orderly capacity demands) (begins : before ++ [demand] <+: demands) :
    Pool.reply capacity before demand = ((Family.after before).meet demand).1 ∧
      Mirrors (demands.filterMap Demand.credential?) ((Pool.after capacity before).meet demand).2
        ((Family.after before).meet demand).2 := by
  have mirrors := (orderly.run ((List.prefix_append _ _).trans begins)).2
  refine mirrors.meet orderly.eq_of_fingerprint ?_ ?_
  · intro credential named
    refine mem_of_prefix begins (List.mem_filterMap.mpr ⟨demand, ?_, named⟩)
    exact List.mem_append_right _ (List.mem_singleton_self demand)
  · have last := orderly.room _ begins
    rw [← Family.keys_after_empty, Family.after_append] at last
    rw [Pool.capacity_after]
    exact last

/-- As many keepers are remembered as there are credentials that were not forgotten. -/
theorem reply_size (orderly : Orderly capacity demands) (begins : before <+: demands) :
    Pool.reply capacity before .size = .count (live before).card := by
  have mirrors := (orderly.run begins).2
  have room : (Family.after before).numbers.keys.card ≤ (Pool.after capacity before).capacity := by
    rw [Family.keys_after_empty, Pool.capacity_after]
    exact orderly.room before begins
  rw [← Family.keys_after_empty]
  exact congrArg Reply.count (mirrors.settle room).size

/-- **Two callers are handed the same keeper** exactly when their credentials are the same and were
not forgotten in between. -/
theorem reply_keeper_eq_iff (orderly : Orderly capacity demands)
    (begins : before ++ .keeper credential :: between ++ [.keeper other] <+: demands) :
    Pool.reply capacity before (.keeper credential) =
        Pool.reply capacity (before ++ .keeper credential :: between) (.keeper other) ↔
      credential = other ∧ .invalidate credential ∉ between := by
  have first : before ++ [.keeper credential] <+: demands := by
    refine List.IsPrefix.trans ?_ begins
    rw [List.append_assoc]
    exact (List.prefix_append_right_inj before).mpr (List.prefix_append [_] _)
  rw [(orderly.meet first).1, (orderly.meet begins).1, Family.meet, Family.meet,
    Reply.keeper.injEq, Family.after_append]
  exact (Family.sound_after before).handle_eq_iff between

/-- **No keeper changes but by deeds with it**, and by bearers for its credential while it is
remembered. -/
theorem keepers_meet (orderly : Orderly capacity demands)
    (begins : before ++ [demand] <+: demands)
    (held : (Pool.after capacity before).keepers[number]? = some keeper)
    (deedless : ∀ deed, demand ≠ .deed number deed)
    (bearerless : ∀ now chance, demand = .bearer keeper.credential now chance →
      (Pool.after capacity before).number? keeper.credential ≠ some number) :
    ((Pool.after capacity before).meet demand).2.keepers[number]? = some keeper := by
  have mirrors := (orderly.run ((List.prefix_append _ _).trans begins)).2
  rw [(orderly.meet begins).2.keepers]
  rw [mirrors.keepers] at held
  refine Family.keepers_meet held deedless ?_
  rintro credential now chance rfl found
  have owned : (Family.after before).owner? number = some credential :=
    Family.sound_after before credential number found
  rw [Family.owner?, held, Option.map_some, Option.some.injEq] at owned
  subst owned
  have named : keeper.credential ∈ demands.filterMap Demand.credential? :=
    mem_of_prefix begins (List.mem_filterMap.mpr
      ⟨_, List.mem_append_right _ (List.mem_singleton_self _), rfl⟩)
  exact bearerless now chance rfl ((mirrors.number _ named).trans found)

/-- **The keeper that is handed out is that of the credential**, and has nothing in it when the
credential was not remembered. -/
theorem reply_keeper (orderly : Orderly capacity demands)
    (begins : before ++ [.keeper credential] <+: demands) :
    ∃ number keeper, Pool.reply capacity before (.keeper credential) = .keeper number ∧
      ((Pool.after capacity before).meet (.keeper credential)).2.keepers[number]? = some keeper ∧
      keeper.credential = credential ∧
      (credential ∉ live before → number = (Pool.after capacity before).keepers.length ∧
        keeper.current = none ∧ keeper.minted = 0) := by
  have mirrors := (orderly.run ((List.prefix_append _ _).trans begins)).2
  obtain ⟨told, met⟩ := orderly.meet begins
  obtain ⟨keeper, held, mine, fresh⟩ := (Family.sound_after before).exists_handle credential
  rw [Family.keys_after_empty, ← mirrors.keepers] at fresh
  refine ⟨_, keeper, told, ?_, mine, fun absent => ?_⟩
  · rw [met.keepers]
    exact held
  · obtain ⟨next, rfl⟩ := fresh absent
    exact ⟨next, rfl, rfl⟩

end Orderly

/-- **Who shares keepers sees what those see who do not.** In an orderly run, whatever callers ask for
with whatever credentials, they are told what they would be told of separate keepers, one for each
credential. Two are handed the same keeper exactly when their credentials agree and were not forgotten
in between; a keeper is that of the credential for which it is handed out, and has nothing in it when
the credential was not remembered; it changes only by deeds with it, and by bearers for its own
credential while it is remembered; and as many are remembered as there are credentials that were asked
for and not forgotten since. -/
theorem Pool.shares {capacity : Nat} {demands : List Demand} (orderly : Orderly capacity demands) :
    repliesTo Pool.meet (.ofCapacity capacity) demands =
      repliesTo Family.meet .empty demands ∧
    (∀ before between credential other,
      before ++ .keeper credential :: between ++ [.keeper other] <+: demands →
      (reply capacity before (.keeper credential) =
          reply capacity (before ++ .keeper credential :: between) (.keeper other) ↔
        credential = other ∧ .invalidate credential ∉ between)) ∧
    (∀ before credential, before ++ [.keeper credential] <+: demands →
      ∃ number keeper, reply capacity before (.keeper credential) = .keeper number ∧
        ((after capacity before).meet (.keeper credential)).2.keepers[number]? = some keeper ∧
        keeper.credential = credential ∧
        (credential ∉ live before → number = (after capacity before).keepers.length ∧
          keeper.current = none ∧ keeper.minted = 0)) ∧
    (∀ before demand number keeper, before ++ [demand] <+: demands →
      (after capacity before).keepers[number]? = some keeper →
      (∀ deed, demand ≠ .deed number deed) →
      (∀ now chance, demand = .bearer keeper.credential now chance →
        (after capacity before).number? keeper.credential ≠ some number) →
      ((after capacity before).meet demand).2.keepers[number]? = some keeper) ∧
    ∀ before, before <+: demands → reply capacity before .size = .count (live before).card :=
  ⟨(orderly.run (List.prefix_refl demands)).1,
    fun _ _ _ _ begins => orderly.reply_keeper_eq_iff begins,
    fun _ _ begins => orderly.reply_keeper begins,
    fun _ _ _ _ begins held deedless bearerless =>
      orderly.keepers_meet begins held deedless bearerless,
    fun _ begins => orderly.reply_size begins⟩

namespace Specimen

/-- A credential whose key cannot be used. -/
def tenant : Credential := ⟨"tenant", "key", "bundle", []⟩

/-- A credential that differs only in its issuer. -/
def neighbour : Credential := ⟨"neighbour", "key", "bundle", []⟩

/-- Two credentials in turn. The keeper of the first is forgotten, but stays in use. -/
def demands : List Demand :=
  [.keeper tenant, .bearer neighbour 0 ⟨"first", 1⟩, .invalidate tenant, .keeper tenant,
    .deed 0 (.renew 5 ⟨"second", 2⟩), .deed 2 .minted, .size]

theorem credentials_demands : demands.filterMap Demand.credential? =
    [tenant, neighbour, tenant, tenant] := rfl

theorem demands_orderly : Orderly 2 demands where
  measurable := by
    rw [credentials_demands]
    decide +kernel
  apart := by
    have digests : Digest.sha256 tenant.spelling ≠ Digest.sha256 neighbour.spelling := by
      decide +kernel
    rw [credentials_demands]
    simp only [List.forall_mem_cons, List.not_mem_nil, false_imp_iff, implies_true, digests,
      digests.symm, and_self]
  room := by
    have each : ∀ earlier ∈ demands.inits, (live earlier).card ≤ 2 := by decide +kernel
    exact fun earlier begins => each earlier ((List.mem_inits earlier demands).mpr begins)

/-- The keeper that was made anew is another one, and two are remembered in the end. -/
theorem pool_shares : Orderly 2 demands ∧
    Pool.reply 2 [] (.keeper tenant) ≠ Pool.reply 2 (demands.take 3) (.keeper tenant) ∧
    Pool.reply 2 demands .size = .count 2 := by
  obtain ⟨_, alike, _, _, size⟩ := Pool.shares demands_orderly
  refine ⟨demands_orderly, ?_, ?_⟩
  · intro same
    have between := alike [] [.bearer neighbour 0 ⟨"first", 1⟩, .invalidate tenant]
      tenant tenant ⟨demands.drop 4, rfl⟩
    exact (between.mp same).2 (List.mem_cons_of_mem _ List.mem_cons_self)
  · have two : (live demands).card = 2 := by decide +kernel
    rw [size demands (List.prefix_refl demands), two]

end Specimen

end SignedPurchase
