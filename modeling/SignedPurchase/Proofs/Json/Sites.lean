import SignedPurchase.Proofs.Json.Members

/-
**Where objects stand in a value.**

A record may be the whole of a value, or stand in it at any depth: in a list, as a member of another
record, behind a value that may be absent. What is read of the whole depends on the object that stands
there only through the record that is read from it.

* `Site` says where in the values of a shape the objects of a record stand;
* `Site.exists_yields`: whatever is read of the whole, a record is read from the object, and any object
  of which the same record is read can stand in its place;
* `Site.read_iff` and `Site.not_read` are what follows for objects that are alike, and for objects from
  which nothing is read.
-/

namespace SignedPurchase

namespace Json

variable {α β σ ρ τ υ : Type} {route : Route}

/-- Where in the values of a shape the objects stand from which a record with those members is read, as
what surrounds them there. -/
inductive Site (members : Members σ ρ) : {α : Type} → Shape α → (place : Draft → Draft) → Prop where
  | here {title : String} : Site members (.record title members) fun object => object
  | optional {α : Type} {shape : Shape α} {place : Draft → Draft} (within : Site members shape place) :
    Site members shape.optional place
  | orNull {α : Type} {default : α} {shape : Shape α} {place : Draft → Draft}
    (within : Site members shape place) : Site members (shape.orNull default) place
  | via {α β : Type} {view : View α β} {shape : Shape α} {place : Draft → Draft}
    (within : Site members shape place) : Site members (.via view shape) place
  | item {α : Type} {shape : Shape α} {place : Draft → Draft} {before after : List Draft}
    {closed : Bool} (within : Site members shape place) :
    Site members shape.list fun object => .list (before ++ place object :: after) closed
  | member {α τ υ : Type} {title name : String} {fields : Members τ υ} {index : Nat} {shape : Shape α}
    {default : Option α} {place : Draft → Draft} {before after : List (Draft × Draft)} {closed : Bool}
    (bearer : fields.field? name = some index) (held : fields.At shape default index)
    (within : Site members shape place) :
    Site members (.record title fields) fun object =>
      .object (before ++ (.text (some name), place object) :: after) closed
  | position {α τ υ : Type} {title : String} {fields : Members τ υ} {shape : Shape α}
    {default : Option α} {place : Draft → Draft} {before after : List Draft} {closed : Bool}
    (held : fields.At shape default before.length) (within : Site members shape place) :
    Site members (.record title fields) fun object =>
      .list (before ++ place object :: after) closed

/-! ### One value among others -/

/-- A value of a member is read, and any value that is read alike can stand in its place. -/
theorem Members.Makes.exists_read {members : Members σ ρ} {shape : Shape α} {default : Option α}
    {index : Nat} (held : members.At shape default index) {name : String}
    (bearer : members.field? name = some index) {value : Draft} {named : List (String × Draft)}
    {values : ρ} (made : members.Makes route ((name, value) :: named) values) :
    ∃ inner, shape.read route value = .ok inner ∧ ∀ other, shape.read route other = .ok inner →
      members.Makes route ((name, other) :: named) values := by
  induction held generalizing named with
  | @first σ ρ own aliases hidden rest =>
    obtain ⟨first, values⟩ := values
    rw [field?_eq_zero_iff] at bearer
    simp only [makes_cons_iff_of_bears bearer] at made ⊢
    obtain ⟨⟨slot, held, filled⟩, later⟩ := made
    generalize (named.filter fun member => bears own aliases member.1) = others at held ⊢
    cases held with
    | present here => exact ⟨_, here, fun other read => ⟨⟨_, .present read, filled⟩, later⟩⟩
  | @next β σ ρ own aliases _ _ hidden rest place later ih =>
    obtain ⟨first, values⟩ := values
    obtain ⟨apart, bearer⟩ := field?_eq_succ_iff.mp bearer
    simp only [makes_cons_iff_of_not_bears apart] at made ⊢
    obtain ⟨inner, here, instead⟩ := ih bearer made.2
    exact ⟨inner, here, fun other read => ⟨made.1, instead other read⟩⟩

/-- The same of objects as they are written, wherever the member stands. -/
theorem Members.Yields.exists_read {members : Members σ ρ} {shape : Shape α} {default : Option α}
    {index : Nat} (held : members.At shape default index) {name : String}
    (bearer : members.field? name = some index) {value : Draft} {before after : List (Draft × Draft)}
    {values : ρ}
    (yields : members.Yields route (before ++ (.text (some name), value) :: after) values) :
    ∃ inner, shape.read route value = .ok inner ∧ ∀ other, shape.read route other = .ok inner →
      members.Yields route (before ++ (.text (some name), other) :: after) values := by
  obtain ⟨named, whole, made⟩ := yields_cons_iff.mp (yields.perm List.perm_middle)
  obtain ⟨inner, here, instead⟩ := made.exists_read held bearer
  exact ⟨inner, here, fun other read =>
    (yields_cons_iff.mpr ⟨named, whole, instead other read⟩).perm List.perm_middle.symm⟩

/-- The same of a record that is written as a list. -/
theorem Members.Fills.exists_read {members : Members σ ρ} {shape : Shape α} {default : Option α}
    {index : Nat} (held : members.At shape default index) {before after : List Draft} {value : Draft}
    (place : before.length = index) {values : ρ}
    (filled : members.Fills route (before ++ value :: after) values) :
    ∃ inner, shape.read route value = .ok inner ∧ ∀ other, shape.read route other = .ok inner →
      members.Fills route (before ++ other :: after) values := by
  induction held generalizing before with
  | first =>
    obtain ⟨first, values⟩ := values
    obtain rfl := List.eq_nil_of_length_eq_zero place
    exact ⟨first, filled.1, fun other read => ⟨read, filled.2⟩⟩
  | next _ ih =>
    obtain ⟨first, values⟩ := values
    obtain ⟨item, before, rfl⟩ := List.exists_cons_of_length_eq_add_one place
    obtain ⟨inner, here, instead⟩ := ih (Nat.succ.inj place) filled.2
    exact ⟨inner, here, fun other read => ⟨filled.1, instead other read⟩⟩

/-- The same of the items of a list. -/
theorem exists_read_of_forall₂ {read : Draft → α → Prop} {before after : List Draft} {item : Draft}
    {values : List α} (each : List.Forall₂ read (before ++ item :: after) values) :
    ∃ inner, read item inner ∧ ∀ other, read other inner →
      List.Forall₂ read (before ++ other :: after) values := by
  induction before generalizing values with
  | nil =>
    cases each with
    | cons here later => exact ⟨_, here, fun other read => .cons read later⟩
  | cons first before ih =>
    cases each with
    | cons here later =>
      obtain ⟨inner, there, instead⟩ := ih later
      exact ⟨inner, there, fun other read => .cons here (instead other read)⟩

/-! ### One object in a whole value -/

namespace Site

variable {members : Members σ ρ} {shape : Shape α} {place : Draft → Draft}
  {object other : List (Draft × Draft)} {value : α}

/-- Where an object stands is no `null`. -/
theorem ne_null (site : Site members shape place) (object : List (Draft × Draft)) (closed : Bool) :
    place (.object object closed) ≠ .null := by
  induction site with
  | here => nofun
  | optional _ ih => exact ih
  | orNull _ ih => exact ih
  | via _ ih => exact ih
  | item _ _ => nofun
  | member _ _ _ _ => nofun
  | position _ _ _ => nofun

/-- **What is read of the whole depends on the object only through the record that is read from it.** -/
theorem exists_yields (site : Site members shape place)
    (read : shape.read route (place (.object object true)) = .ok value) :
    ∃ values, members.Yields route object values ∧ ∀ other, members.Yields route other values →
      shape.read route (place (.object other true)) = .ok value := by
  induction site with
  | here =>
    obtain ⟨_, yields⟩ := Shape.read_object_eq_ok_iff.mp read
    exact ⟨value, yields, fun other yields => Shape.read_object_eq_ok_iff.mpr ⟨rfl, yields⟩⟩
  | optional within ih =>
    rcases Shape.read_optional_eq_ok_iff.mp read with ⟨none, _⟩ | ⟨_, present, here, rfl⟩
    · exact absurd none (within.ne_null object true)
    · obtain ⟨values, yields, instead⟩ := ih here
      exact ⟨values, yields, fun other yields => Shape.read_optional_eq_ok_iff.mpr
        (.inr ⟨within.ne_null other true, present, instead other yields, rfl⟩)⟩
  | orNull within ih =>
    rcases Shape.read_orNull_eq_ok_iff.mp read with ⟨none, _⟩ | ⟨_, here⟩
    · exact absurd none (within.ne_null object true)
    · obtain ⟨values, yields, instead⟩ := ih here
      exact ⟨values, yields, fun other yields => Shape.read_orNull_eq_ok_iff.mpr
        (.inr ⟨within.ne_null other true, instead other yields⟩)⟩
  | via _ ih =>
    obtain ⟨inner, here, rfl⟩ := Shape.read_via_eq_ok_iff.mp read
    obtain ⟨values, yields, instead⟩ := ih here
    exact ⟨values, yields,
      fun other yields => Shape.read_via_eq_ok_iff.mpr ⟨inner, instead other yields, rfl⟩⟩
  | item _ ih =>
    obtain ⟨items, whole, each⟩ := Shape.read_list_eq_ok_iff.mp read
    cases whole
    obtain ⟨inner, here, around⟩ := exists_read_of_forall₂ each
    obtain ⟨values, yields, instead⟩ := ih here
    exact ⟨values, yields, fun other yields =>
      Shape.read_list_eq_ok_iff.mpr ⟨_, rfl, around _ (instead other yields)⟩⟩
  | member bearer held _ ih =>
    obtain ⟨closed, outer⟩ := Shape.read_object_eq_ok_iff.mp read
    obtain ⟨inner, here, around⟩ := outer.exists_read held bearer
    obtain ⟨values, yields, instead⟩ := ih here
    exact ⟨values, yields, fun other yields =>
      Shape.read_object_eq_ok_iff.mpr ⟨closed, around _ (instead other yields)⟩⟩
  | position held _ ih =>
    rcases Shape.read_record_eq_ok_iff.mp read with ⟨_, _, whole, _⟩ | ⟨items, whole, filled⟩
    · cases whole
    · cases whole
      obtain ⟨inner, here, around⟩ := filled.exists_read held rfl
      obtain ⟨values, yields, instead⟩ := ih here
      exact ⟨values, yields, fun other yields =>
        Shape.read_record_eq_ok_iff.mpr (.inr ⟨_, rfl, around _ (instead other yields)⟩)⟩

/-- **Objects from which the same records are read** are alike wherever they stand. -/
theorem read_iff (site : Site members shape place)
    (alike : ∀ values, members.Yields route object values ↔ members.Yields route other values) :
    shape.read route (place (.object object true)) = .ok value ↔
      shape.read route (place (.object other true)) = .ok value := by
  refine ⟨?_, ?_⟩
  · intro read
    obtain ⟨values, yields, instead⟩ := site.exists_yields read
    exact instead other ((alike values).mp yields)
  · intro read
    obtain ⟨values, yields, instead⟩ := site.exists_yields read
    exact instead object ((alike values).mpr yields)

/-- **Where an object stands from which no record is read**, nothing is read of the whole. -/
theorem not_read (site : Site members shape place)
    (none : ∀ values, ¬ members.Yields route object values) :
    shape.read route (place (.object object true)) ≠ .ok value := by
  intro read
  obtain ⟨values, yields, _⟩ := site.exists_yields read
  exact none values yields

end Site

end Json

end SignedPurchase
