import Mathlib.Data.List.Forall2
import SignedPurchase.Json.Shape.Read
import SignedPurchase.Proofs.Json.Settling

/-
**What can be read.**

For each way of making a shape: which drafts it is read from, and as what. The two routes differ in the
faults that they report only, so all of this holds for either of them. A record is gathered member by
member, in whatever order the members stand.

* `Members.Gathers` says what each member of a record is read from when the record is an object,
  `collect_eq_ok_iff` that going through the members in order does the same;
* `Members.Fills` says so for a list, with `Members.readItems_eq_ok_iff`;
* `Shape.read_record_eq_ok_iff` and its like for the other shapes.
-/

namespace SignedPurchase

namespace Json

variable {α β σ ρ : Type} {route : Route} {draft : Draft}

-- Nearly all proofs below unfold this function; its equations are made here, once for all of them.
attribute [local simp] Shape.read

/-! ### Texts, flags and integers -/

/-- Texts are read from texts. -/
theorem Shape.read_text_eq_ok_iff {value : String} :
    Shape.text.read route draft = .ok value ↔ draft = .text (some value) := by
  refine ⟨?_, ?_⟩
  · intro read
    unfold Shape.read at read
    split at read
    · cases read
      rfl
    · cases read
  · rintro rfl
    rw [Shape.read]

theorem Shape.read_flag_eq_ok_iff {value : Bool} :
    Shape.flag.read route draft = .ok value ↔ draft = .flag value := by
  refine ⟨?_, ?_⟩
  · intro read
    unfold Shape.read at read
    split at read
    · cases read
      rfl
    · cases read
  · rintro rfl
    rw [Shape.read]

/-- Integers are read from whole numbers in their range. -/
theorem Shape.read_integer_eq_ok_iff {kind : IntegerKind α} {value : α} :
    (Shape.integer kind).read route draft = .ok value ↔
      ∃ number, draft = .number (some (.integer number)) ∧ kind.ofInt? number = some value := by
  refine ⟨?_, ?_⟩
  · intro read
    unfold Shape.read at read
    split at read
    · rename_i number
      split at read
      · rename_i found
        cases read
        exact ⟨number, rfl, found⟩
      · cases read
    · cases read
  · rintro ⟨number, rfl, found⟩
    rw [Shape.read]
    simp only [found]

/-! ### Choices -/

theorem Choice.read_eq_ok_iff {choice : Choice α} {name : String} {value : α} :
    choice.read name = .ok value ↔ choice.value? name = some value := by
  rw [Choice.read]
  cases choice.value? name with
  | none => simp only [reduceCtorEq]
  | some found => simp only [Except.ok.injEq, Option.some.injEq]

theorem readNothing_eq_ok_iff : readNothing draft = .ok () ↔ draft = .null := by
  refine ⟨?_, ?_⟩
  · intro read
    unfold readNothing at read
    split at read
    · rfl
    · cases read
  · rintro rfl
    rfl

/-- A name is read from an object when it is the only member and nothing is attached to it. -/
theorem Choice.readObject_eq_ok_iff {choice : Choice α} {members : List (Draft × Draft)}
    {closed : Bool} {value : α} :
    choice.readObject route members closed = .ok value ↔
      ∃ name, members = Draft.spelled [(name, .null)] ∧ closed = true ∧
        choice.value? name = some value := by
  unfold Choice.readObject
  refine ⟨?_, ?_⟩
  · intro read
    split at read
    · cases read
    · split at read
      · cases read
      · rename_i name attached rest single
        split at read
        · cases read
        · rename_i found known
          split at read
          · cases read
          · rename_i nothing
            split at read
            · rename_i alone
              cases read
              rw [Bool.and_eq_true, List.isEmpty_iff] at alone
              obtain ⟨rfl, rfl⟩ := alone
              rw [readNothing_eq_ok_iff.mp nothing]
              exact ⟨name, rfl, rfl, Choice.read_eq_ok_iff.mp known⟩
            · cases read
      · cases read
  · rintro ⟨name, rfl, rfl, known⟩
    have single : (Draft.spelled [(name, .null)]).length = 1 := rfl
    rw [single, if_neg (by simp)]
    simp only [Draft.spelled, List.map_cons, List.map_nil, Choice.read_eq_ok_iff.mpr known,
      readNothing, List.isEmpty_nil, Bool.and_self, if_true]

/-- Choices are read from a name, alone or as the only member of an object. -/
theorem Shape.read_choice_eq_ok_iff {choice : Choice α} {value : α} :
    (Shape.choice choice).read route draft = .ok value ↔
      ∃ name, (draft = .text (some name) ∨ draft = .object (Draft.spelled [(name, .null)]) true) ∧
        choice.value? name = some value := by
  refine ⟨?_, ?_⟩
  · intro read
    unfold Shape.read at read
    split at read
    · rename_i name
      exact ⟨name, .inl rfl, Choice.read_eq_ok_iff.mp read⟩
    · obtain ⟨name, rfl, rfl, known⟩ := Choice.readObject_eq_ok_iff.mp read
      exact ⟨name, .inr rfl, known⟩
    · cases route with
      | text => cases read
      | tree => cases read
  · rintro ⟨name, rfl | rfl, known⟩
    · rw [Shape.read]
      exact Choice.read_eq_ok_iff.mpr known
    · rw [Shape.read]
      exact Choice.readObject_eq_ok_iff.mpr ⟨name, rfl, rfl, known⟩

/-! ### Values that may be absent, lists and views -/

/-- An optional value is read from `null` or from the value. -/
theorem Shape.read_optional_eq_ok_iff {shape : Shape α} {value : Option α} :
    shape.optional.read route draft = .ok value ↔
      (draft = .null ∧ value = none) ∨
        (draft ≠ .null ∧ ∃ present, shape.read route draft = .ok present ∧
          value = some present) := by
  refine ⟨?_, ?_⟩
  · intro read
    unfold Shape.read at read
    split at read
    · cases read
      exact .inl ⟨rfl, rfl⟩
    · rename_i other
      split at read
      · rename_i present found
        cases read
        exact .inr ⟨other, present, found, rfl⟩
      · cases read
  · rintro (⟨rfl, rfl⟩ | ⟨other, present, found, rfl⟩)
    · rw [Shape.read]
    · rw [Shape.read]
      simp only [found]
      exact other

/-- A value with a default is read from `null` or from the value. -/
theorem Shape.read_orNull_eq_ok_iff {shape : Shape α} {default value : α} :
    (shape.orNull default).read route draft = .ok value ↔
      (draft = .null ∧ value = default) ∨
        (draft ≠ .null ∧ shape.read route draft = .ok value) := by
  refine ⟨?_, ?_⟩
  · intro read
    unfold Shape.read at read
    split at read
    · cases read
      exact .inl ⟨rfl, rfl⟩
    · rename_i other
      exact .inr ⟨other, read⟩
  · rintro (⟨rfl, rfl⟩ | ⟨other, found⟩)
    · rw [Shape.read]
    · rw [Shape.read]
      · exact found
      · exact other

/-- The items of a list are read one by one. -/
theorem readEach_eq_ok_iff {read : Draft → Except Fault α} {items : List Draft}
    {values : List α} :
    readEach read items = .ok values ↔
      List.Forall₂ (fun item value => read item = .ok value) items values := by
  induction items generalizing values with
  | nil =>
    rw [readEach]
    refine ⟨?_, ?_⟩
    · intro found
      cases found
      exact .nil
    · intro related
      cases related
      rfl
  | cons item rest ih =>
    rw [readEach]
    refine ⟨?_, ?_⟩
    · intro found
      split at found
      · cases found
      · rename_i here
        split at found
        · cases found
        · rename_i later
          cases found
          exact .cons here (ih.mp later)
    · intro related
      cases related with
      | cons here later => simp only [here, ih.mpr later]

/-- Lists are read from lists. -/
theorem Shape.read_list_eq_ok_iff {shape : Shape α} {values : List α} :
    shape.list.read route draft = .ok values ↔
      ∃ items, draft = .list items true ∧
        List.Forall₂ (fun item value => shape.read route item = .ok value) items values := by
  refine ⟨?_, ?_⟩
  · intro read
    unfold Shape.read at read
    split at read
    · rename_i items closed
      split at read
      · rename_i each
        split at read
        · rename_i closed
          subst closed
          cases read
          exact ⟨items, rfl, readEach_eq_ok_iff.mp each⟩
        · cases read
      · cases read
    · cases read
  · rintro ⟨items, rfl, each⟩
    rw [Shape.read]
    simp only [readEach_eq_ok_iff.mpr each, if_true]

/-- Another view of a value is read from the value. -/
theorem Shape.read_via_eq_ok_iff {view : View α β} {shape : Shape α} {value : β} :
    (Shape.via view shape).read route draft = .ok value ↔
      ∃ inner, shape.read route draft = .ok inner ∧ value = view.apply inner := by
  rw [Shape.read]
  refine ⟨?_, ?_⟩
  · intro read
    split at read
    · rename_i inner found
      cases read
      exact ⟨inner, found, rfl⟩
    · cases read
  · rintro ⟨inner, found, rfl⟩
    simp only [found]

/-! ### Members of an object -/

/-- Whether a name is one of those under which a member is read. -/
def bears (own : String) (aliases : List String) (name : String) : Bool :=
  name = own || aliases.contains name

/-- What the members that bear the names of a slot put into it: nothing, or the value of the only
one. -/
inductive Holds (read : Draft → Except Fault α) : List (String × Draft) → Option α → Prop where
  | absent : Holds read [] none
  | present {name : String} {value : Draft} {result : α} (here : read value = .ok result) :
    Holds read [(name, value)] (some result)

/-- **What the members of a record are read from**: each from the members of an object that bear its
names and none of those before it, while nothing may be wrong in what is left over. -/
def Members.Gathers (route : Route) :
    {σ ρ : Type} → Members σ ρ → List (String × Draft) → σ → Prop
  | _, _, .nil, named, _ => ∀ member ∈ named, member.2.isSound = true
  | _, _, .cons own aliases shape _ _ rest, named, (slot, slots) =>
    Holds (shape.read route) (named.filter fun member => bears own aliases member.1) slot ∧
      rest.Gathers route (named.filter fun member => !bears own aliases member.1) slots

/-- Members that can be gone through have texts for names. -/
theorem spelled_of_collect {store : Store σ} {members : List (Draft × Draft)} {slots after : σ}
    (collected : collect store members slots = .ok after) :
    ∃ named, members = Draft.spelled named := by
  induction members generalizing slots with
  | nil => exact ⟨[], rfl⟩
  | cons member rest ih =>
    unfold collect at collected
    split at collected
    · rename_i none
      cases none
    · rename_i name value others whole
      cases whole
      have later : ∃ slots, collect store rest slots = .ok after := by
        split at collected
        · split at collected
          · exact ⟨_, collected⟩
          · cases collected
        · exact ⟨_, collected⟩
        · cases collected
      obtain ⟨slots, collected⟩ := later
      obtain ⟨named, rfl⟩ := ih collected
      exact ⟨(name, value) :: named, rfl⟩
    · cases collected

/-- Members that no one reads must be sound. -/
theorem collect_nil_eq_ok_iff {named : List (String × Draft)} :
    collect (Members.nil.store route) (Draft.spelled named) () = .ok () ↔
      ∀ member ∈ named, member.2.isSound = true := by
  induction named with
  | nil => exact ⟨fun _ member none => absurd none List.not_mem_nil, fun _ => rfl⟩
  | cons member rest ih =>
    rw [Draft.spelled, List.map_cons, collect, Members.store, List.forall_mem_cons, ← ih]
    by_cases sound : member.2.isSound = true
    · simp only [sound, if_true, true_and]
      exact Iff.rfl
    · simp only [sound, if_false, false_and, reduceCtorEq]

section Cons

variable {own : String} {aliases : List String} {shape : Shape α} {default : Option α}
  {hidden : Bool} {rest : Members σ ρ} {slot slot' : Option α} {slots slots' : σ}

/-- A member whose name a slot bears is read into it, unless the slot is taken. -/
theorem Members.store_of_bears {name : String} {value : Draft}
    (borne : bears own aliases name = true) :
    (Members.cons own aliases shape default hidden rest).store route name value (slot, slots) =
      match slot with
      | some _ => some (.error (.repeatedMember own))
      | none =>
        match shape.read route value with
        | .ok value => some (.ok (some value, slots))
        | .error fault => some (.error fault) := by
  rw [Members.store.eq_def]
  exact if_pos borne

/-- A member that bears another name passes the slot by. -/
theorem Members.store_of_not_bears {name : String} {value : Draft}
    (other : bears own aliases name = false) :
    (Members.cons own aliases shape default hidden rest).store route name value (slot, slots) =
      match rest.store route name value slots with
      | none => none
      | some (.ok slots) => some (.ok (slot, slots))
      | some (.error fault) => some (.error fault) := by
  rw [Members.store.eq_def]
  exact if_neg (Bool.eq_false_iff.mp other)

/-- A member that bears another name is left to the other slots. -/
theorem collect_cons_iff_of_not_bears {named : List (String × Draft)} {member : String × Draft}
    {condition : Prop} (other : bears own aliases member.1 = false)
    (later : ∀ {slots : σ},
      collect ((Members.cons own aliases shape default hidden rest).store route)
          (Draft.spelled named) (slot, slots) = .ok (slot', slots') ↔
        condition ∧ collect (rest.store route) (Draft.spelled
          (named.filter fun member => !bears own aliases member.1)) slots = .ok slots') :
    collect ((Members.cons own aliases shape default hidden rest).store route)
        (Draft.spelled (member :: named)) (slot, slots) = .ok (slot', slots') ↔
      condition ∧ collect (rest.store route) (Draft.spelled
        (member :: named.filter fun member => !bears own aliases member.1)) slots =
          .ok slots' := by
  rw [Draft.spelled, List.map_cons, collect, Members.store_of_not_bears other, Draft.spelled,
    List.map_cons, collect]
  cases rest.store route member.1 member.2 slots with
  | none =>
    by_cases sound : member.2.isSound = true
    · simp only [sound, if_true]
      exact later
    · simp only [sound, if_false, reduceCtorEq, and_false]
  | some result =>
    cases result with
    | ok slots => exact later
    | error fault => simp only [reduceCtorEq, and_false]

/-- A slot that is taken stays as it is, and no other member may bear its names. -/
theorem collect_taken_eq_ok_iff {named : List (String × Draft)} {taken : α} :
    collect ((Members.cons own aliases shape default hidden rest).store route)
        (Draft.spelled named) (some taken, slots) = .ok (slot', slots') ↔
      ((named.filter fun member => bears own aliases member.1) = [] ∧ slot' = some taken) ∧
        collect (rest.store route)
          (Draft.spelled (named.filter fun member => !bears own aliases member.1)) slots =
            .ok slots' := by
  induction named generalizing slots with
  | nil =>
    simp only [Draft.spelled, List.map_nil, List.filter_nil, collect, Except.ok.injEq,
      Prod.mk.injEq, true_and]
    rw [eq_comm (a := some taken)]
  | cons member later ih =>
    simp only [List.filter_cons]
    cases borne : bears own aliases member.1 with
    | true =>
      rw [Draft.spelled, List.map_cons, collect, Members.store_of_bears borne]
      simp only [if_true, reduceCtorEq, false_and]
    | false => exact collect_cons_iff_of_not_bears borne ih

/-- A slot that is free takes the value of the only member that bears its names. -/
theorem collect_free_eq_ok_iff {named : List (String × Draft)} :
    collect ((Members.cons own aliases shape default hidden rest).store route)
        (Draft.spelled named) (none, slots) = .ok (slot', slots') ↔
      Holds (shape.read route) (named.filter fun member => bears own aliases member.1) slot' ∧
        collect (rest.store route)
          (Draft.spelled (named.filter fun member => !bears own aliases member.1)) slots =
            .ok slots' := by
  induction named generalizing slots with
  | nil =>
    simp only [Draft.spelled, List.map_nil, List.filter_nil, collect, Except.ok.injEq,
      Prod.mk.injEq]
    refine ⟨?_, ?_⟩
    · rintro ⟨rfl, same⟩
      exact ⟨.absent, same⟩
    · rintro ⟨held, same⟩
      cases held
      exact ⟨rfl, same⟩
  | cons member later ih =>
    simp only [List.filter_cons]
    cases borne : bears own aliases member.1 with
    | true =>
      rw [Draft.spelled, List.map_cons, collect, Members.store_of_bears borne]
      -- The slot is filled here, so what comes later must pass it by.
      cases read : shape.read route member.2 with
      | ok value =>
        refine collect_taken_eq_ok_iff.trans ?_
        simp only [if_true]
        refine ⟨?_, ?_⟩
        · rintro ⟨⟨none, rfl⟩, others⟩
          rw [none]
          exact ⟨.present read, others⟩
        · rintro ⟨held, others⟩
          generalize none : (later.filter fun member => bears own aliases member.1) = own at held
          cases held with
          | present here =>
            rw [read] at here
            cases here
            exact ⟨⟨rfl, rfl⟩, others⟩
      | error fault =>
        simp only [if_true, reduceCtorEq, false_iff, not_and]
        intro held
        generalize (later.filter fun member => bears own aliases member.1) = own at held
        cases held with
        | present here =>
          rw [read] at here
          cases here
    | false => exact collect_cons_iff_of_not_bears borne ih

end Cons

/-- **Going through the members of an object in order** gathers what each slot is read from. -/
theorem Members.collect_eq_ok_iff : {σ ρ : Type} → (members : Members σ ρ) →
    (named : List (String × Draft)) → (slots : σ) →
    (collect (members.store route) (Draft.spelled named) members.blank = .ok slots ↔
      members.Gathers route named slots)
  | _, _, .nil, _, _ => collect_nil_eq_ok_iff
  | _, _, .cons own aliases _ _ _ rest, named, (_, slots) => by
    rw [Members.blank, collect_free_eq_ok_iff, Members.Gathers,
      rest.collect_eq_ok_iff (named.filter fun member => !bears own aliases member.1) slots]

/-- A record is finished when its first member is, and the others are. -/
theorem Members.complete_cons_eq_ok_iff {own : String} {aliases : List String} {default : Option α}
    {shape : Shape α} {hidden : Bool} {rest : Members σ ρ} {slot : Option α} {slots : σ} {first : α}
    {values : ρ} :
    (Members.cons own aliases shape default hidden rest).complete (slot, slots) =
        .ok (first, values) ↔
      slot.or default = some first ∧ rest.complete slots = .ok values := by
  rw [Members.complete]
  cases slot.or default with
  | none => simp only [reduceCtorEq, false_and]
  | some found =>
    dsimp only
    cases rest.complete slots with
    | error fault => simp only [reduceCtorEq, and_false]
    | ok others => simp only [Except.ok.injEq, Prod.mk.injEq, Option.some.injEq]

/-! ### Members from a list -/

/-- **What the members of a record are read from in a list**: one item each in their order, where
members with a default may be missing at the end. -/
def Members.Fills (route : Route) : {σ ρ : Type} → Members σ ρ → List Draft → ρ → Prop
  | _, _, .nil, items, _ => items = []
  | _, _, .cons _ _ _ default _ rest, [], (value, values) =>
    default = some value ∧ rest.Fills route [] values
  | _, _, .cons _ _ shape _ _ rest, item :: items, (value, values) =>
    shape.read route item = .ok value ∧ rest.Fills route items values

/-- **Going through the items of a list** fills the members in their order. -/
theorem Members.readItems_eq_ok_iff {short : Nat → Fault} : {σ ρ : Type} →
    (members : Members σ ρ) → (index : Nat) → (items : List Draft) → (values : ρ) →
    (members.readItems route short index items true = .ok (values, []) ↔
      members.Fills route items values)
  | _, _, .nil, _, items, _ => by
    simp only [Members.readItems, Members.Fills, Except.ok.injEq, Prod.mk.injEq, true_and]
  | _, _, .cons _ _ _ default _ rest, index, [], (value, values) => by
    rw [Members.Fills, ← rest.readItems_eq_ok_iff (index + 1) [] values, Members.readItems.eq_def]
    cases default with
    | none => simp only [if_true, reduceCtorEq, false_and]
    | some given =>
      simp only [if_true, Option.some.injEq]
      cases rest.readItems route short (index + 1) [] true with
      | error fault => simp only [reduceCtorEq, and_false]
      | ok result => simp only [Except.ok.injEq, Prod.ext_iff, and_assoc]
  | _, _, .cons _ _ shape _ _ rest, index, item :: items, (value, values) => by
    rw [Members.Fills, ← rest.readItems_eq_ok_iff (index + 1) items values,
      Members.readItems.eq_def]
    simp only
    cases shape.read route item with
    | error fault => simp only [reduceCtorEq, false_and]
    | ok given =>
      simp only [Except.ok.injEq]
      cases rest.readItems route short (index + 1) items true with
      | error fault => simp only [reduceCtorEq, and_false]
      | ok result => simp only [Except.ok.injEq, Prod.ext_iff, and_assoc]

/-- Nothing is said about a closed list without items left over. -/
theorem leftOver_eq_none_iff {items left : List Draft} {closed : Bool} :
    leftOver route items left closed = none ↔ left = [] ∧ closed = true := by
  unfold leftOver
  cases left with
  | nil =>
    cases closed with
    | true => simp
    | false => simp
  | cons item rest =>
    cases route with
    | text => simp
    | tree => simp

/-! ### Records -/

/-- **Records are read from objects or from lists**: from the members of an object, where those that
are absent have their defaults, or from the items of a list. -/
theorem Shape.read_record_eq_ok_iff {title : String} {members : Members σ ρ} {value : ρ} :
    (Shape.record title members).read route draft = .ok value ↔
      (∃ named slots, draft = .object (Draft.spelled named) true ∧
        members.Gathers route named slots ∧ members.complete slots = .ok value) ∨
      (∃ items, draft = .list items true ∧ members.Fills route items value) := by
  refine ⟨?_, ?_⟩
  · intro read
    unfold Shape.read at read
    split at read
    · rename_i pairs closed
      split at read
      · cases read
      · rename_i slots collected
        split at read
        · rename_i isClosed
          obtain ⟨named, rfl⟩ := spelled_of_collect collected
          rw [isClosed]
          exact .inl ⟨named, slots, rfl, (members.collect_eq_ok_iff named slots).mp collected,
            read⟩
        · cases read
    · rename_i items closed
      split at read
      · cases read
      · rename_i values left filled
        split at read
        · cases read
        · rename_i nothing
          cases read
          obtain ⟨rfl, rfl⟩ := leftOver_eq_none_iff.mp nothing
          exact .inr ⟨items, rfl, (members.readItems_eq_ok_iff 0 items value).mp filled⟩
    · cases read
  · rintro (⟨named, slots, rfl, gathered, completed⟩ | ⟨items, rfl, filled⟩)
    · have collected := (members.collect_eq_ok_iff named slots).mpr gathered
      rw [Shape.read]
      simp only [collected, if_true]
      exact completed
    · have filled : members.readItems route
          (fun count => .wrongLength count (elementsText title members.count)) 0 items true =
            .ok (value, []) :=
        (members.readItems_eq_ok_iff 0 items value).mpr filled
      rw [Shape.read]
      simp only [filled, leftOver_eq_none_iff.mpr ⟨rfl, rfl⟩]

end Json

end SignedPurchase
