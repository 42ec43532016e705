import SignedPurchase.Json.Shape.Integer
import SignedPurchase.Json.Shape.Write
import SignedPurchase.Proofs.Json.Routes
import SignedPurchase.Proofs.Json.Writing

/-
**Values that survive being written.**

What was read as a value of a shape, and is written, is read as the same value again. Of the shape this
asks only that no two of its members share a name, that `null` is written for absent values alone, that
defaults can be written too, and that integers and nesting keep within bounds.

* `Shape.Faithful` says this of a shape;
* `Shape.restores_of_read`: a value that was read is restored, by either route;
* `Shape.survives_of_restores` says so for whole texts.
-/

namespace SignedPurchase

namespace Json

/-- A value is restored when it is read from the draft of its own tree, by either route. -/
def Shape.Restores {α : Type} (shape : Shape α) (value : α) : Prop :=
  ∀ route, shape.read route (shape.write value).toDraft = .ok value

/-- The integers of a kind have at most sixty-four bits. -/
def IntegerKind.IsWord {α : Type} (kind : IntegerKind α) : Prop :=
  ∀ value, Int64.minValue.toInt ≤ kind.toInt value ∧ kind.toInt value < UInt64.size

/-- Whether `null` is written for no value. -/
def Shape.isPresent : {α : Type} → Shape α → Bool
  | _, .optional _ => false
  | _, .orNull _ shape => shape.isPresent
  | _, .via _ shape => shape.isPresent
  | _, _ => true

/-- The names under which the members of a record are written. -/
def Members.names : {σ ρ : Type} → Members σ ρ → List String
  | _, _, .nil => []
  | _, _, .cons name _ _ _ _ rest => name :: rest.names

/-- Whether no member of a record is read under the name of a later one. -/
def Members.isApart : {σ ρ : Type} → Members σ ρ → Bool
  | _, _, .nil => true
  | _, _, .cons own aliases _ _ _ rest =>
    rest.names.all (fun name => !bears own aliases name) && rest.isApart

mutual

/-- What is asked of a shape so that every value that was read survives being written. -/
def Shape.Faithful : {α : Type} → Shape α → (depth : Nat) → Prop
  | _, .text, _ => True
  | _, .flag, _ => True
  | _, .integer kind, _ => kind.IsWord
  | _, .choice _, _ => True
  | _, .optional shape, depth => shape.isPresent = true ∧ shape.Faithful depth
  | _, .orNull default shape, depth =>
    shape.isPresent = true ∧ shape.Restores default ∧ shape.Faithful depth
  | _, .list shape, depth + 1 => shape.Faithful depth
  | _, .list _, 0 => False
  | _, .record _ members, depth + 1 => members.isApart = true ∧ members.Faithful depth
  | _, .record _ _, 0 => False
  | _, .via _ shape, depth => shape.Faithful depth

/-- What is asked of the members of a record: each of them is written, and its default can be. -/
def Members.Faithful : {σ ρ : Type} → Members σ ρ → (depth : Nat) → Prop
  | _, _, .nil, _ => True
  | _, _, .cons _ _ shape default hidden rest, depth =>
    hidden = false ∧ (∀ value ∈ default, shape.Restores value) ∧ shape.Faithful depth ∧
      rest.Faithful depth

end

/-! ### Integers -/

@[simp]
theorem IntegerKind.signed32_isWord : signed32.IsWord := by
  intro value
  have low : Int32.minValue.toInt ≤ value.toInt := Int32.minValue_le_toInt value
  have high : value.toInt ≤ Int32.maxValue.toInt := Int32.toInt_le value
  have below : Int64.minValue.toInt ≤ Int32.minValue.toInt := by decide
  have above : Int32.maxValue.toInt < UInt64.size := by decide
  exact ⟨below.trans low, high.trans_lt above⟩

@[simp]
theorem IntegerKind.signed64_isWord : signed64.IsWord := by
  intro value
  have high : value.toInt ≤ Int64.maxValue.toInt := Int64.toInt_le value
  have above : Int64.maxValue.toInt < UInt64.size := by decide
  exact ⟨Int64.minValue_le_toInt value, high.trans_lt above⟩

@[simp]
theorem IntegerKind.unsigned32_isWord : unsigned32.IsWord := by
  intro value
  have high : value.toNat < UInt32.size := UInt32.toNat_lt_size value
  have below : Int64.minValue.toInt ≤ 0 := by decide
  have above : UInt32.size ≤ UInt64.size := by decide
  exact ⟨below.trans (Int.natCast_nonneg _), Int.ofNat_lt.mpr (high.trans_le above)⟩

@[simp]
theorem IntegerKind.unsigned64_isWord : unsigned64.IsWord := by
  intro value
  have below : Int64.minValue.toInt ≤ 0 := by decide
  exact ⟨below.trans (Int.natCast_nonneg _), Int.ofNat_lt.mpr (UInt64.toNat_lt_size value)⟩

variable {α β σ ρ : Type} {depth : Nat} {route : Route}

/-! ### The tree of a value -/

/-- A shape that never writes `null` writes something else. -/
theorem Shape.toDraft_write_ne_null : {α : Type} → (shape : Shape α) → shape.isPresent = true →
    (value : α) → (shape.write value).toDraft ≠ .null
  | _, .text, _, _ => by simp [Shape.write, Tree.toDraft]
  | _, .flag, _, _ => by simp [Shape.write, Tree.toDraft]
  | _, .integer _, _, _ => by simp [Shape.write, Tree.toDraft]
  | _, .choice _, _, _ => by simp [Shape.write, Tree.toDraft]
  | _, .list _, _, _ => by simp [Shape.write, Tree.toDraft]
  | _, .record _ _, _, _ => by simp [Shape.write, Tree.toDraft]
  | _, .optional _, present, _ => by simp [Shape.isPresent] at present
  | _, .orNull _ shape, present, value => by
    rw [Shape.isPresent] at present
    rw [Shape.write]
    exact shape.toDraft_write_ne_null present value
  | _, .via view shape, present, value => by
    rw [Shape.isPresent] at present
    rw [Shape.write]
    exact shape.toDraft_write_ne_null present (view.back value)

mutual

/-- **The tree of a value keeps within bounds.** -/
theorem Shape.fits_write : {α : Type} → (shape : Shape α) → {depth : Nat} →
    shape.Faithful depth → (value : α) → (shape.write value).Fits depth
  | _, .text, _, _, _ => by simp [Shape.write]
  | _, .flag, _, _, _ => by simp [Shape.write]
  | _, .integer kind, _, faithful, value => by
    rw [Shape.Faithful] at faithful
    rw [Shape.write, Tree.Fits]
    exact faithful value
  | _, .choice _, _, _, _ => by simp [Shape.write]
  | _, .optional _, _, _, none => by simp [Shape.write]
  | _, .optional shape, _, faithful, some value => by
    rw [Shape.Faithful] at faithful
    rw [Shape.write]
    exact shape.fits_write faithful.2 value
  | _, .orNull _ shape, _, faithful, value => by
    rw [Shape.Faithful] at faithful
    rw [Shape.write]
    exact shape.fits_write faithful.2.2 value
  | _, .list shape, depth + 1, faithful, values => by
    rw [Shape.Faithful] at faithful
    rw [Shape.write, Tree.Fits]
    intro item member
    obtain ⟨value, _, rfl⟩ := List.mem_map.mp member
    exact shape.fits_write faithful value
  | _, .list _, 0, faithful, _ => by
    rw [Shape.Faithful] at faithful
    exact faithful.elim
  | _, .record _ members, depth + 1, faithful, values => by
    rw [Shape.Faithful] at faithful
    rw [Shape.write, Tree.Fits]
    exact members.fits_write faithful.2 values
  | _, .record _ _, 0, faithful, _ => by
    rw [Shape.Faithful] at faithful
    exact faithful.elim
  | _, .via view shape, _, faithful, value => by
    rw [Shape.Faithful] at faithful
    rw [Shape.write]
    exact shape.fits_write faithful (view.back value)

theorem Members.fits_write : {σ ρ : Type} → (members : Members σ ρ) → {depth : Nat} →
    members.Faithful depth → (values : ρ) →
    ∀ member ∈ members.write values, member.2.Fits depth
  | _, _, .nil, _, _, _ => by
    rw [Members.write]
    exact fun member none => absurd none List.not_mem_nil
  | _, _, .cons _ _ shape _ hidden rest, _, faithful, (value, values) => by
    rw [Members.Faithful] at faithful
    obtain ⟨shown, _, here, later⟩ := faithful
    rw [Members.write, shown, if_neg Bool.false_ne_true, List.forall_mem_cons]
    exact ⟨shape.fits_write here value, rest.fits_write later values⟩

end

/-! ### The members of a record -/

/-- Every member of a record is restored. -/
def Members.Restores : {σ ρ : Type} → Members σ ρ → ρ → Prop
  | _, _, .nil, _ => True
  | _, _, .cons _ _ shape _ _ rest, (value, values) => shape.Restores value ∧ rest.Restores values

/-- All members of a record as they are read. -/
def Members.filled : {σ ρ : Type} → Members σ ρ → ρ → σ
  | _, _, .nil, _ => ()
  | _, _, .cons _ _ _ _ _ rest, (value, values) => (some value, rest.filled values)

theorem Members.complete_filled : {σ ρ : Type} → (members : Members σ ρ) → (values : ρ) →
    members.complete (members.filled values) = .ok values
  | _, _, .nil, _ => rfl
  | _, _, .cons _ _ _ _ _ rest, (value, values) => by
    rw [Members.filled, Members.complete, Option.some_or, rest.complete_filled values]

/-- The members of a record as they are read from what is written: those that are hidden are not
there. -/
def Members.shown : {σ ρ : Type} → Members σ ρ → ρ → σ
  | _, _, .nil, _ => ()
  | _, _, .cons _ _ _ _ hidden rest, (value, values) =>
    (if hidden then none else some value, rest.shown values)

/-- When none is hidden these are all of them. -/
theorem Members.shown_eq_filled : {σ ρ : Type} → (members : Members σ ρ) →
    members.Faithful depth → (values : ρ) → members.shown values = members.filled values
  | _, _, .nil, _, _ => rfl
  | _, _, .cons _ _ _ _ _ rest, faithful, (value, values) => by
    rw [Members.Faithful] at faithful
    obtain ⟨shown, _, _, later⟩ := faithful
    rw [Members.shown, Members.filled, shown, if_neg Bool.false_ne_true,
      rest.shown_eq_filled later]

/-- Nothing is written under another name than those of the members. -/
theorem Members.mem_names_of_mem_write : {σ ρ : Type} → (members : Members σ ρ) → (values : ρ) →
    ∀ member ∈ members.write values, member.1 ∈ members.names
  | _, _, .nil, _, _, found => by
    rw [Members.write] at found
    exact absurd found List.not_mem_nil
  | _, _, .cons name _ _ _ hidden rest, (value, values), member, found => by
    rw [Members.write] at found
    rw [Members.names]
    split at found
    · exact List.mem_cons_of_mem name (rest.mem_names_of_mem_write values member found)
    · rcases List.mem_cons.mp found with rfl | found
      · exact List.mem_cons_self
      · exact List.mem_cons_of_mem name (rest.mem_names_of_mem_write values member found)

/-- **The members that are written are gathered again**, each by its own name. -/
theorem Members.gathers_shown : {σ ρ : Type} → (members : Members σ ρ) →
    members.isApart = true → (values : ρ) → members.Restores values →
    members.Gathers route (Tree.drafted (members.write values)) (members.shown values)
  | _, _, .nil, _, _, _ => by
    rw [Members.write, Members.Gathers]
    exact fun member none => absurd none List.not_mem_nil
  | _, _, .cons own aliases shape default hidden rest, apart, (value, values), restored => by
    rw [Members.isApart, Bool.and_eq_true, List.all_eq_true] at apart
    obtain ⟨others, apart⟩ := apart
    obtain ⟨here, restored⟩ := restored
    have borne : bears own aliases own = true := by simp [bears]
    -- No later member is written under a name of this one.
    have passed : ∀ member ∈ Tree.drafted (rest.write values),
        bears own aliases member.1 = false := by
      intro member found
      obtain ⟨tree, written, rfl⟩ := List.mem_map.mp found
      exact Bool.not_eq_true' _ ▸ others tree.1 (rest.mem_names_of_mem_write values tree written)
    have nobody : (Tree.drafted (rest.write values)).filter
        (fun member => bears own aliases member.1) = [] :=
      List.filter_eq_nil_iff.mpr fun member found => Bool.eq_false_iff.mp (passed member found)
    have everybody : (Tree.drafted (rest.write values)).filter
        (fun member => !bears own aliases member.1) = Tree.drafted (rest.write values) := by
      refine List.filter_eq_self.mpr fun member found => ?_
      rw [passed member found]
      rfl
    have later := rest.gathers_shown apart values restored
    rw [Members.write, Members.shown, Members.Gathers]
    cases hidden with
    | true =>
      simp only [if_true, nobody, everybody]
      exact ⟨.absent, later⟩
    | false =>
      have written : Tree.drafted ((own, shape.write value) :: rest.write values) =
          (own, (shape.write value).toDraft) :: Tree.drafted (rest.write values) := rfl
      simp only [Bool.false_eq_true, if_false, written, List.filter_cons, borne, if_true,
        Bool.not_true, nobody, everybody]
      exact ⟨.present (here route), later⟩

/-- A record is restored when each of its members is. -/
theorem Shape.record_restores {title : String} {members : Members σ ρ}
    (faithful : members.Faithful depth) (apart : members.isApart = true) {values : ρ}
    (restored : members.Restores values) : (Shape.record title members).Restores values := by
  intro route
  have gathered : members.Gathers route (Tree.drafted (members.write values))
      (members.filled values) := by
    rw [← members.shown_eq_filled faithful]
    exact members.gathers_shown apart values restored
  refine Shape.read_record_eq_ok_iff.mpr
    (.inl ⟨_, members.filled values, ?_, gathered, members.complete_filled values⟩)
  rw [Shape.write, Tree.toDraft, Tree.membersToDraft_eq]

/-! ### Values that were read -/

@[simp]
theorem Shape.text_restores (value : String) : Shape.text.Restores value := by
  intro route
  rw [Shape.write, Tree.toDraft]
  exact Shape.read_text_eq_ok_iff.mpr rfl

@[simp]
theorem Shape.flag_restores (value : Bool) : Shape.flag.Restores value := by
  intro route
  rw [Shape.write, Tree.toDraft]
  exact Shape.read_flag_eq_ok_iff.mpr rfl

@[simp]
theorem Shape.integer_restores (kind : IntegerKind α) (value : α) :
    (Shape.integer kind).Restores value := by
  intro route
  rw [Shape.write, Tree.toDraft]
  exact Shape.read_integer_eq_ok_iff.mpr ⟨_, rfl, kind.ofInt?_toInt value⟩

@[simp]
theorem Shape.choice_restores (choice : Choice α) (value : α) :
    (Shape.choice choice).Restores value := by
  intro route
  rw [Shape.write, Tree.toDraft]
  exact Shape.read_choice_eq_ok_iff.mpr ⟨choice.name value, .inl rfl, choice.read_name value⟩

@[simp]
theorem Shape.optional_restores_none (shape : Shape α) : shape.optional.Restores none := by
  intro route
  rw [Shape.write, Tree.toDraft]
  exact Shape.read_optional_eq_ok_iff.mpr (.inl ⟨rfl, rfl⟩)

theorem Shape.optional_restores_some {shape : Shape α} {value : α} (present : shape.isPresent = true)
    (restored : shape.Restores value) : shape.optional.Restores (some value) := by
  intro route
  rw [Shape.write]
  exact Shape.read_optional_eq_ok_iff.mpr
    (.inr ⟨shape.toDraft_write_ne_null present value, value, restored route, rfl⟩)

theorem Shape.list_restores {shape : Shape α} {values : List α}
    (each : ∀ value ∈ values, shape.Restores value) : shape.list.Restores values := by
  intro route
  rw [Shape.write, Tree.toDraft, Tree.itemsToDraft_eq, List.map_map]
  refine Shape.read_list_eq_ok_iff.mpr ⟨_, rfl, ?_⟩
  rw [List.forall₂_map_left_iff, List.forall₂_same]
  exact fun value member => each value member route

@[simp]
theorem Shape.list_restores_nil (shape : Shape α) : shape.list.Restores [] :=
  Shape.list_restores fun _ none => absurd none List.not_mem_nil

theorem Shape.via_restores (view : View α β) {shape : Shape α} {value : α}
    (restored : shape.Restores value) : (Shape.via view shape).Restores (view.apply value) := by
  intro route
  rw [Shape.write, view.back_apply]
  exact Shape.read_via_eq_ok_iff.mpr ⟨value, restored route, rfl⟩

mutual

/-- **A value that was read is restored**, whichever route it was read by. -/
theorem Shape.restores_of_read : {α : Type} → (shape : Shape α) → {depth : Nat} →
    shape.Faithful depth → {route : Route} → {draft : Draft} → {value : α} →
    shape.read route draft = .ok value → shape.Restores value
  | _, .text, _, _, _, _, value, _ => Shape.text_restores value
  | _, .flag, _, _, _, _, value, _ => Shape.flag_restores value
  | _, .integer kind, _, _, _, _, value, _ => Shape.integer_restores kind value
  | _, .choice choice, _, _, _, _, value, _ => Shape.choice_restores choice value
  | _, .optional shape, _, faithful, _, _, _, read => by
    rw [Shape.Faithful] at faithful
    obtain ⟨present, faithful⟩ := faithful
    obtain ⟨_, rfl⟩ | ⟨_, value, found, rfl⟩ := Shape.read_optional_eq_ok_iff.mp read
    · exact shape.optional_restores_none
    · exact Shape.optional_restores_some present (shape.restores_of_read faithful found)
  | _, .orNull default shape, _, faithful, _, _, value, read => by
    rw [Shape.Faithful] at faithful
    obtain ⟨present, given, faithful⟩ := faithful
    have restored : shape.Restores value := by
      obtain ⟨_, rfl⟩ | ⟨_, read⟩ := Shape.read_orNull_eq_ok_iff.mp read
      · exact given
      · exact shape.restores_of_read faithful read
    intro route
    rw [Shape.write]
    exact Shape.read_orNull_eq_ok_iff.mpr
      (.inr ⟨shape.toDraft_write_ne_null present value, restored route⟩)
  -- The values of a list were read from its items one by one, each by the inner shape.
  | _, .list shape, depth + 1, faithful, _, _, values, read => by
    rw [Shape.Faithful] at faithful
    obtain ⟨items, -, each⟩ := Shape.read_list_eq_ok_iff.mp read
    refine Shape.list_restores ?_
    clear read
    induction each with
    | nil => exact fun value none => absurd none List.not_mem_nil
    | cons here _ ih => exact List.forall_mem_cons.mpr ⟨shape.restores_of_read faithful here, ih⟩
  | _, .list _, 0, faithful, _, _, _, _ => by
    rw [Shape.Faithful] at faithful
    exact faithful.elim
  | _, .record _ members, depth + 1, faithful, _, _, values, read => by
    rw [Shape.Faithful] at faithful
    obtain ⟨apart, faithful⟩ := faithful
    refine Shape.record_restores faithful apart ?_
    obtain ⟨named, slots, _, gathered, completed⟩ | ⟨items, _, filled⟩ :=
      Shape.read_record_eq_ok_iff.mp read
    · exact members.restores_of_gathers faithful gathered completed
    · exact members.restores_of_fills faithful filled
  | _, .record _ _, 0, faithful, _, _, _, _ => by
    rw [Shape.Faithful] at faithful
    exact faithful.elim
  | _, .via view shape, _, faithful, _, _, _, read => by
    rw [Shape.Faithful] at faithful
    obtain ⟨inner, found, rfl⟩ := Shape.read_via_eq_ok_iff.mp read
    exact Shape.via_restores view (shape.restores_of_read faithful found)

/-- The members that are gathered from an object are restored, and so are defaults. -/
theorem Members.restores_of_gathers : {σ ρ : Type} → (members : Members σ ρ) → {depth : Nat} →
    members.Faithful depth → {route : Route} → {named : List (String × Draft)} → {slots : σ} →
    {values : ρ} → members.Gathers route named slots → members.complete slots = .ok values →
    members.Restores values
  | _, _, .nil, _, _, _, _, _, _, _, _ => trivial
  | _, _, .cons _ _ shape default _ rest, _, faithful, _, named, (slot, slots), (value, values),
      gathered, completed => by
    rw [Members.Faithful] at faithful
    obtain ⟨_, given, here, later⟩ := faithful
    obtain ⟨held, others⟩ := gathered
    rw [Members.complete] at completed
    split at completed
    · cases completed
    · rename_i found chosen
      split at completed
      · rename_i rested
        cases completed
        refine ⟨?_, rest.restores_of_gathers later others rested⟩
        clear others
        generalize named.filter _ = own at held
        -- A slot that stayed empty has the default, which can be written too.
        cases held with
        | absent =>
          rw [Option.none_or] at chosen
          exact given value chosen
        | present read =>
          rw [Option.some_or] at chosen
          cases chosen
          exact shape.restores_of_read here read
      · cases completed

/-- The members that are filled from a list are restored, and so are defaults. -/
theorem Members.restores_of_fills : {σ ρ : Type} → (members : Members σ ρ) → {depth : Nat} →
    members.Faithful depth → {route : Route} → {items : List Draft} → {values : ρ} →
    members.Fills route items values → members.Restores values
  | _, _, .nil, _, _, _, _, _, _ => trivial
  | _, _, .cons _ _ _ _ _ rest, _, faithful, _, [], (value, values), filled => by
    rw [Members.Faithful] at faithful
    obtain ⟨_, given, _, later⟩ := faithful
    obtain ⟨absent, others⟩ := filled
    exact ⟨given value absent, rest.restores_of_fills later others⟩
  | _, _, .cons _ _ shape _ _ rest, _, faithful, _, item :: items, (value, values), filled => by
    rw [Members.Faithful] at faithful
    obtain ⟨_, _, here, later⟩ := faithful
    obtain ⟨read, others⟩ := filled
    exact ⟨shape.restores_of_read here read, rest.restores_of_fills later others⟩

end

/-! ### Whole texts -/

/-- A text gives a value of a shape by one of the routes: straight from its bytes, or through its
tree. -/
def Shape.Gives {α : Type} (shape : Shape α) (bytes : Bytes) (value : α) : Prop :=
  shape.decode bytes = .ok value ∨
    ∃ tree, Tree.decode bytes = .ok tree ∧ shape.ofTree tree = .ok value

theorem Tree.decode_eq_ok_iff {bytes : Bytes} {tree : Tree} :
    Tree.decode bytes = .ok tree ↔ (Document.read bytes).tree? = some tree := by
  rw [Tree.decode]
  cases (Document.read bytes).tree? with
  | none => simp only [reduceCtorEq]
  | some found => simp only [Except.ok.injEq, Option.some.injEq]

/-- A value survives when the text that is written of it gives it back by both routes. -/
def Shape.Survives {α : Type} (shape : Shape α) (value : α) : Prop :=
  shape.decode (shape.encode value) = .ok value ∧
    ∃ tree, Tree.decode (shape.encode value) = .ok tree ∧ shape.ofTree tree = .ok value

variable {shape : Shape α} {bytes : Bytes} {value : α}

/-- A value that a text gives is restored. -/
theorem Shape.restores_of_gives (faithful : shape.Faithful depth) (given : shape.Gives bytes value) :
    shape.Restores value := by
  rcases given with decoded | ⟨tree, _, read⟩
  · exact shape.restores_of_read faithful (Shape.decode_eq_ok_iff.mp decoded).1
  · exact shape.restores_of_read faithful read

/-- **A value that is restored survives**, if its tree is not too deep. -/
theorem Shape.survives_of_restores (fits : (shape.write value).Fits Tree.greatestDepth)
    (restored : shape.Restores value) : shape.Survives value := by
  have decoded : shape.decode (shape.encode value) = .ok value := by
    rw [Shape.decode_eq_ok_iff, Shape.encode, Document.read_write fits]
    exact ⟨restored .text, rfl⟩
  obtain ⟨tree, found⟩ := Document.exists_tree?_write fits
  exact ⟨decoded, tree, Tree.decode_eq_ok_iff.mpr found, ofTree_eq_ok_of_decode found decoded⟩

/-- The text of a value that survives gives no other value. -/
theorem Shape.Survives.eq_of_gives (survives : shape.Survives value) {again : α}
    (given : shape.Gives (shape.encode value) again) : again = value := by
  obtain ⟨decoded, tree, found, read⟩ := survives
  rcases given with decoded' | ⟨tree', found', read'⟩
  · rw [decoded] at decoded'
    exact (Except.ok.inj decoded').symm
  · rw [found, Except.ok.injEq] at found'
    rw [← found', read] at read'
    exact (Except.ok.inj read').symm

end Json

end SignedPurchase
