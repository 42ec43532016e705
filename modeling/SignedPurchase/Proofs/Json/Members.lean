import Mathlib.Data.List.Perm.Basic
import SignedPurchase.Proofs.Json.Reading

/-
**The members of an object, in whatever order they stand.**

A record is read from an object in one pass, which fills one slot for each member of the record. What
comes of it does not depend on the order of the object's members, nor on those that no member of the
record bears, nor on whether an absent value is written out. It depends on there being no two for the
same slot.

* `Members.field?` and `Members.At` tell the members of a record by their names and by their places;
* `Members.IsOptional` says that `null` stands for the absence of a member;
* `Members.Makes` says what an object makes of a record, `Members.makes_cons_iff` one member at a time;
* `Makes.perm`, `makes_unknown_iff`, `makes_absent_iff` and `not_makes_of_repeated` are the four laws,
  which `Members.Yields` has for objects as they are written.
-/

namespace SignedPurchase

namespace Json

variable {α β σ ρ : Type} {route : Route}

/-! ### Names and places -/

/-- The place of the member that a name is read into: the first that bears it. -/
def Members.field? : {σ ρ : Type} → Members σ ρ → String → Option Nat
  | _, _, .nil, _ => none
  | _, _, .cons own aliases _ _ _ rest, name =>
    if bears own aliases name then some 0 else (rest.field? name).map (· + 1)

/-- The member at a place of a record has this shape and this default. -/
inductive Members.At (shape : Shape α) (default : Option α) :
    {σ ρ : Type} → Members σ ρ → (place : Nat) → Prop where
  | first {σ ρ : Type} {own : String} {aliases : List String} {hidden : Bool} {rest : Members σ ρ} :
    At shape default (.cons own aliases shape default hidden rest) 0
  | next {β σ ρ : Type} {own : String} {aliases : List String} {other : Shape β}
    {given : Option β} {hidden : Bool} {rest : Members σ ρ} {place : Nat}
    (later : At shape default rest place) :
    At shape default (.cons own aliases other given hidden rest) (place + 1)

/-- What `null` stands for in the place of a value that may be absent. -/
def Shape.absent? : {α : Type} → Shape α → Option α
  | _, .optional _ => some none
  | _, .orNull default _ => some default
  | _, _ => none

/-- The member with a name may be absent, and `null` stands for its absence. -/
def Members.IsOptional (members : Members σ ρ) (name : String) : Prop :=
  ∃ (α : Type) (shape : Shape α) (value : α) (place : Nat),
    members.field? name = some place ∧ members.At shape (some value) place ∧
      shape.absent? = some value

/-- What `null` stands for is what it is read as. -/
theorem Shape.read_null_of_absent? {shape : Shape α} {value : α}
    (absent : shape.absent? = some value) : shape.read route .null = .ok value := by
  cases shape with
  | optional shape =>
    cases absent
    exact Shape.read_optional_eq_ok_iff.mpr (.inl ⟨rfl, rfl⟩)
  | orNull default shape =>
    cases absent
    exact Shape.read_orNull_eq_ok_iff.mpr (.inl ⟨rfl, rfl⟩)
  | _ => cases absent

section Cons

variable {own name : String} {aliases : List String} {shape : Shape α} {default : Option α}
  {hidden : Bool} {rest : Members σ ρ} {named : List (String × Draft)} {first : α} {values : ρ}

theorem Members.field?_of_bears (borne : bears own aliases name = true) :
    (Members.cons own aliases shape default hidden rest).field? name = some 0 :=
  if_pos borne

theorem Members.field?_of_not_bears (apart : bears own aliases name = false) :
    (Members.cons own aliases shape default hidden rest).field? name =
      (rest.field? name).map (· + 1) :=
  if_neg (Bool.eq_false_iff.mp apart)

/-- The first member is the one for a name exactly when it bears it. -/
theorem Members.field?_eq_zero_iff :
    (Members.cons own aliases shape default hidden rest).field? name = some 0 ↔
      bears own aliases name = true := by
  cases borne : bears own aliases name with
  | true => simp only [field?_of_bears borne]
  | false => simp [field?_of_not_bears borne]

/-- A later member is the one for a name exactly when the first does not bear it. -/
theorem Members.field?_eq_succ_iff {place : Nat} :
    (Members.cons own aliases shape default hidden rest).field? name = some (place + 1) ↔
      bears own aliases name = false ∧ rest.field? name = some place := by
  cases borne : bears own aliases name with
  | true => simp [field?_of_bears borne]
  | false => simp [field?_of_not_bears borne]

/-! ### What an object makes of a record -/

/-- The members of an object make a record: each of the record's members is read from the only one that
bears its name, or has its default. -/
def Members.Makes (route : Route) (members : Members σ ρ) (named : List (String × Draft))
    (values : ρ) : Prop :=
  ∃ slots, members.Gathers route named slots ∧ members.complete slots = .ok values

theorem Members.makes_nil_iff {values : Unit} :
    Members.nil.Makes route named values ↔ ∀ member ∈ named, member.2.isSound = true := by
  refine ⟨?_, ?_⟩
  · rintro ⟨_, sound, _⟩
    exact sound
  · intro sound
    exact ⟨(), sound, rfl⟩

/-- **One member at a time**: the first is read from what bears its names, the others from what is
left. -/
theorem Members.makes_cons_iff :
    (Members.cons own aliases shape default hidden rest).Makes route named (first, values) ↔
      (∃ slot, Holds (shape.read route) (named.filter fun member => bears own aliases member.1) slot ∧
        slot.or default = some first) ∧
      rest.Makes route (named.filter fun member => !bears own aliases member.1) values := by
  refine ⟨?_, ?_⟩
  · rintro ⟨⟨slot, slots⟩, ⟨held, gathered⟩, completed⟩
    obtain ⟨filled, completed⟩ := complete_cons_eq_ok_iff.mp completed
    exact ⟨⟨slot, held, filled⟩, slots, gathered, completed⟩
  · rintro ⟨⟨slot, held, filled⟩, slots, gathered, completed⟩
    exact ⟨(slot, slots), ⟨held, gathered⟩, complete_cons_eq_ok_iff.mpr ⟨filled, completed⟩⟩

variable {value : Draft}

/-- A member that bears a name of the first is for the first. -/
theorem Members.makes_cons_iff_of_bears (borne : bears own aliases name = true) :
    (Members.cons own aliases shape default hidden rest).Makes route ((name, value) :: named)
        (first, values) ↔
      (∃ slot, Holds (shape.read route)
          ((name, value) :: named.filter fun member => bears own aliases member.1) slot ∧
        slot.or default = some first) ∧
      rest.Makes route (named.filter fun member => !bears own aliases member.1) values := by
  simp only [makes_cons_iff, List.filter_cons, borne, if_true, Bool.not_true, Bool.false_eq_true,
    if_false]

/-- A member that bears none of its names is left to the others. -/
theorem Members.makes_cons_iff_of_not_bears (apart : bears own aliases name = false) :
    (Members.cons own aliases shape default hidden rest).Makes route ((name, value) :: named)
        (first, values) ↔
      (∃ slot, Holds (shape.read route) (named.filter fun member => bears own aliases member.1) slot ∧
        slot.or default = some first) ∧
      rest.Makes route
        ((name, value) :: named.filter fun member => !bears own aliases member.1) values := by
  simp only [makes_cons_iff, List.filter_cons, apart, Bool.not_false, if_true, Bool.false_eq_true,
    if_false]

end Cons

/-! ### The four laws -/

/-- What a slot holds does not depend on an order. -/
theorem Holds.perm {read : Draft → Except Fault α} {named other : List (String × Draft)}
    {slot : Option α} (held : Holds read named slot) (perm : named.Perm other) :
    Holds read other slot := by
  cases held with
  | absent =>
    rw [perm.nil_eq.symm]
    exact .absent
  | present here =>
    rw [← List.singleton_perm.mp perm]
    exact .present here

/-- **The order of the members does not matter.** -/
theorem Members.Makes.perm : {σ ρ : Type} → {members : Members σ ρ} →
    {named other : List (String × Draft)} → {values : ρ} → members.Makes route named values →
    named.Perm other → members.Makes route other values
  | _, _, .nil, _, _, _, made, perm =>
    makes_nil_iff.mpr fun member found => makes_nil_iff.mp made member (perm.mem_iff.mpr found)
  | _, _, .cons _ _ _ _ _ rest, _, _, (_, _), made, perm => by
    obtain ⟨⟨slot, held, filled⟩, later⟩ := makes_cons_iff.mp made
    exact makes_cons_iff.mpr ⟨⟨slot, held.perm (perm.filter _), filled⟩, later.perm (perm.filter _)⟩

/-- **A member that no member of the record bears does not matter**, as long as nothing in it is
wrong. -/
theorem Members.makes_unknown_iff : {σ ρ : Type} → {members : Members σ ρ} → {name : String} →
    {extra : Draft} → {named : List (String × Draft)} → {values : ρ} →
    members.field? name = none → extra.isSound = true →
    (members.Makes route ((name, extra) :: named) values ↔ members.Makes route named values)
  | _, _, .nil, _, _, _, _, _, sound => by
    simp only [makes_nil_iff, List.forall_mem_cons, sound, true_and]
  | _, _, .cons own aliases _ _ _ rest, name, extra, named, (_, _), unknown, sound => by
    cases borne : bears own aliases name with
    | true =>
      rw [field?_of_bears borne] at unknown
      cases unknown
    | false =>
      rw [field?_of_not_bears borne, Option.map_eq_none_iff] at unknown
      rw [makes_cons_iff_of_not_bears borne, makes_cons_iff, makes_unknown_iff unknown sound]

/-- **A `null` for a member that may be absent does not matter**, as long as nothing else is there for
that member. -/
theorem Members.makes_absent_iff {shape : Shape α} {value : α} {members : Members σ ρ} {place : Nat}
    (held : members.At shape (some value) place) (absent : shape.absent? = some value) {name : String}
    (bearer : members.field? name = some place) {named : List (String × Draft)}
    (alone : ∀ member ∈ named, members.field? member.1 ≠ some place) {values : ρ} :
    members.Makes route ((name, .null) :: named) values ↔ members.Makes route named values := by
  induction held generalizing named with
  | @first σ ρ own aliases hidden rest =>
    obtain ⟨first, values⟩ := values
    rw [field?_eq_zero_iff] at bearer
    have lone : (named.filter fun member => bears own aliases member.1) = [] := by
      rw [List.filter_eq_nil_iff]
      intro member found borne
      exact alone member found (field?_of_bears borne)
    have held : (∃ slot, Holds (shape.read route) [(name, Draft.null)] slot ∧
        slot.or (some value) = some first) ↔
        ∃ slot, Holds (shape.read route) [] slot ∧ slot.or (some value) = some first := by
      refine ⟨?_, ?_⟩
      · rintro ⟨slot, held, filled⟩
        cases held with
        | present here =>
          rw [Shape.read_null_of_absent? absent] at here
          cases here
          exact ⟨none, .absent, filled⟩
      · rintro ⟨slot, held, filled⟩
        cases held
        exact ⟨some value, .present (Shape.read_null_of_absent? absent), filled⟩
    rw [makes_cons_iff_of_bears bearer, makes_cons_iff, lone, held]
  | @next β σ ρ own aliases other given hidden rest place later ih =>
    obtain ⟨first, values⟩ := values
    obtain ⟨apart, bearer⟩ := field?_eq_succ_iff.mp bearer
    have alone : ∀ member ∈ named.filter fun member => !bears own aliases member.1,
        rest.field? member.1 ≠ some place := by
      intro member found there
      obtain ⟨found, apart⟩ := List.mem_filter.mp found
      exact alone member found (field?_eq_succ_iff.mpr ⟨Bool.not_eq_true' _ |>.mp apart, there⟩)
    rw [makes_cons_iff_of_not_bears apart, makes_cons_iff, ih bearer alone]

/-- **Nothing is made of two members for the same one.** -/
theorem Members.not_makes_of_repeated : {σ ρ : Type} → {members : Members σ ρ} →
    {name other : String} → {value again : Draft} → {named : List (String × Draft)} →
    {values : ρ} → {place : Nat} → members.field? name = some place →
    members.field? other = some place →
    ¬ members.Makes route ((name, value) :: (other, again) :: named) values
  | _, _, .nil, _, _, _, _, _, _, _, found, _ => by
    cases found
  | _, _, .cons _ _ _ _ _ _, _, _, _, _, _, (_, _), 0, first, second => by
    rw [field?_eq_zero_iff] at first second
    rw [makes_cons_iff_of_bears first, List.filter_cons, if_pos second]
    rintro ⟨⟨_, held, _⟩, _⟩
    cases held
  | _, _, .cons _ _ _ _ _ rest, _, _, _, _, _, (_, _), place + 1, first, second => by
    obtain ⟨apart, first⟩ := field?_eq_succ_iff.mp first
    obtain ⟨apart', second⟩ := field?_eq_succ_iff.mp second
    rw [makes_cons_iff_of_not_bears apart]
    rintro ⟨_, later⟩
    rw [List.filter_cons, apart', Bool.not_false, if_pos rfl] at later
    exact not_makes_of_repeated first second later

/-! ### Objects as they are written -/

/-- Members in another order are spelled in that order. -/
theorem Draft.exists_spelled_of_perm {named : List (String × Draft)} {object : List (Draft × Draft)}
    (perm : (spelled named).Perm object) : ∃ other, object = spelled other ∧ named.Perm other := by
  generalize whole : spelled named = written at perm
  induction perm generalizing named with
  | nil => exact ⟨[], rfl, List.map_eq_nil_iff.mp whole ▸ .refl _⟩
  | cons member _ ih =>
    obtain ⟨first, rest, rfl, rfl, later⟩ := List.map_eq_cons_iff.mp whole
    obtain ⟨other, rfl, perm⟩ := ih later
    exact ⟨first :: other, rfl, perm.cons first⟩
  | swap member next written =>
    obtain ⟨first, rest, rfl, rfl, later⟩ := List.map_eq_cons_iff.mp whole
    obtain ⟨second, rest, rfl, rfl, rfl⟩ := List.map_eq_cons_iff.mp later
    exact ⟨second :: first :: rest, rfl, .swap second first rest⟩
  | trans _ _ ih ih' =>
    obtain ⟨middle, rfl, perm⟩ := ih whole
    obtain ⟨other, rfl, perm'⟩ := ih' rfl
    exact ⟨other, rfl, perm.trans perm'⟩

/-- The members of an object as they are written make a record, all of them having texts for names. -/
def Members.Yields (route : Route) (members : Members σ ρ) (object : List (Draft × Draft))
    (values : ρ) : Prop :=
  ∃ named, object = Draft.spelled named ∧ members.Makes route named values

/-- That is how a record is read from an object. -/
theorem Shape.read_object_eq_ok_iff {title : String} {members : Members σ ρ}
    {object : List (Draft × Draft)} {closed : Bool} {values : ρ} :
    (Shape.record title members).read route (.object object closed) = .ok values ↔
      closed = true ∧ members.Yields route object values := by
  rw [Shape.read_record_eq_ok_iff]
  refine ⟨?_, ?_⟩
  · rintro (⟨named, slots, whole, gathered, completed⟩ | ⟨_, whole, _⟩)
    · cases whole
      exact ⟨rfl, named, rfl, slots, gathered, completed⟩
    · cases whole
  · rintro ⟨rfl, named, rfl, slots, gathered, completed⟩
    exact .inl ⟨named, slots, rfl, gathered, completed⟩

section Written

variable {members : Members σ ρ} {name other : String} {value again : Draft}
  {object object' : List (Draft × Draft)} {values : ρ}

theorem Members.yields_cons_iff :
    members.Yields route ((.text (some name), value) :: object) values ↔
      ∃ named, object = Draft.spelled named ∧ members.Makes route ((name, value) :: named) values := by
  refine ⟨?_, ?_⟩
  · rintro ⟨named, whole, made⟩
    obtain ⟨first, rest, rfl, same, rfl⟩ := List.map_eq_cons_iff.mp whole.symm
    cases same
    exact ⟨rest, rfl, made⟩
  · rintro ⟨named, rfl, made⟩
    exact ⟨_, rfl, made⟩

theorem Members.Yields.perm (yields : members.Yields route object values)
    (perm : object.Perm object') : members.Yields route object' values := by
  obtain ⟨named, rfl, made⟩ := yields
  obtain ⟨other, rfl, perm'⟩ := Draft.exists_spelled_of_perm perm
  exact ⟨other, rfl, made.perm perm'⟩

theorem Members.yields_perm_iff (perm : object.Perm object') :
    members.Yields route object values ↔ members.Yields route object' values :=
  ⟨fun yields => yields.perm perm, fun yields => yields.perm perm.symm⟩

theorem Members.yields_unknown_iff (unknown : members.field? name = none)
    (sound : value.isSound = true) :
    members.Yields route ((.text (some name), value) :: object) values ↔
      members.Yields route object values := by
  rw [yields_cons_iff]
  exact exists_congr fun named => and_congr_right fun _ => makes_unknown_iff unknown sound

theorem Members.yields_absent_iff (optional : members.IsOptional name)
    (alone : ∀ other value, (Draft.text (some other), value) ∈ object →
      members.field? other ≠ members.field? name) :
    members.Yields route ((.text (some name), .null) :: object) values ↔
      members.Yields route object values := by
  obtain ⟨_, _, _, place, bearer, held, absent⟩ := optional
  rw [yields_cons_iff]
  refine exists_congr fun named => and_congr_right fun whole => ?_
  refine makes_absent_iff held absent bearer ?_
  intro member found there
  refine alone member.1 member.2 ?_ (there.trans bearer.symm)
  rw [whole]
  exact List.mem_map_of_mem found

theorem Members.not_yields_of_repeated {place : Nat} (first : members.field? name = some place)
    (second : members.field? other = some place) :
    ¬ members.Yields route ((.text (some name), value) :: (.text (some other), again) :: object)
      values := by
  intro yields
  obtain ⟨named, whole, made⟩ := yields_cons_iff.mp yields
  obtain ⟨member, rest, rfl, same, rfl⟩ := List.map_eq_cons_iff.mp whole.symm
  cases same
  exact not_makes_of_repeated first second made

end Written

end Json

end SignedPurchase
