import SignedPurchase.Proofs.Json.Reading

/-
**The two routes to a value.**

A value can be read straight from a text, or from the tree of the text. What the text gives, the tree
gives too; and what the tree gives, the text gives too unless an object repeats a name: the tree has
forgotten that, and a reader of the text may stumble over it. This holds of every shape.

* `Shape.RoutesAgree` says so for a shape, `Shape.routesAgree` proves it of all of them;
* `ofTree_eq_ok_of_decode` and `decode_eq_ok_iff_ofTree` say so for whole texts.
-/

namespace SignedPurchase

namespace Json

variable {α β : Type}

/-- What one route gives, the other gives: from the text to the tree always, and back when no object
repeats a name. -/
structure Shape.RoutesAgree {α : Type} (shape : Shape α) : Prop where
  tree_of_text : ∀ {draft : Draft} {tree : Tree} {value : α}, draft.Shows tree →
    shape.read .text draft = .ok value → shape.read .tree tree.toDraft = .ok value
  text_of_tree : ∀ {draft : Draft} {tree : Tree} {value : α}, draft.Shows tree → draft.Distinct →
    shape.read .tree tree.toDraft = .ok value → shape.read .text draft = .ok value

/-- The routes agree about each member of a record. -/
def Members.RoutesAgree : {σ ρ : Type} → Members σ ρ → Prop
  | _, _, .nil => True
  | _, _, .cons _ _ shape _ _ rest => shape.RoutesAgree ∧ rest.RoutesAgree

namespace Shape

/-! ### Texts, flags and integers -/

/-- The routes agree about a shape that is read from what is neither a list nor an object: the tree has
nothing to settle there. -/
theorem routesAgree_of_isPlain {shape : Shape α} (means : Draft → α → Prop)
    (read_iff : ∀ {route : Route} {draft : Draft} {value : α},
      shape.read route draft = .ok value ↔ means draft value)
    (plain : ∀ {draft : Draft} {value : α}, means draft value → draft.isPlain = true) :
    shape.RoutesAgree := by
  refine ⟨?_, ?_⟩
  · intro draft tree value shown read
    rw [read_iff] at read ⊢
    have same : tree.toDraft = draft := (shown.eq_iff_of_isPlain (plain read)).mp rfl
    rw [same]
    exact read
  · intro draft tree value shown _ read
    rw [read_iff] at read ⊢
    have same : draft = tree.toDraft := (shown.eq_iff_of_isPlain (plain read)).mpr rfl
    rw [same]
    exact read

theorem text_routesAgree : Shape.text.RoutesAgree := by
  refine routesAgree_of_isPlain (fun draft value => draft = .text (some value))
    read_text_eq_ok_iff ?_
  rintro _ value rfl
  rfl

theorem flag_routesAgree : Shape.flag.RoutesAgree := by
  refine routesAgree_of_isPlain (fun draft value => draft = .flag value) read_flag_eq_ok_iff ?_
  rintro _ value rfl
  rfl

theorem integer_routesAgree (kind : IntegerKind α) : (Shape.integer kind).RoutesAgree := by
  refine routesAgree_of_isPlain _ read_integer_eq_ok_iff ?_
  rintro _ value ⟨number, rfl, _⟩
  rfl

/-! ### Choices -/

/-- A single member stays as it is. -/
theorem drafted_settled_singleton (name : String) (tree : Tree) :
    Tree.drafted (Tree.settled [(name, tree)]) = [(name, tree.toDraft)] :=
  rfl

/-- Without repeated names, a single member can only come from a single member. -/
theorem eq_singleton_of_drafted_settled {trees : List (String × Tree)} {name : String}
    {value : Draft} (nodup : (trees.map (·.1)).Nodup)
    (single : Tree.drafted (Tree.settled trees) = [(name, value)]) :
    ∃ tree, trees = [(name, tree)] ∧ tree.toDraft = value := by
  obtain ⟨member, settled, same⟩ := List.map_eq_singleton_iff.mp single
  cases same
  have perm := Tree.settled_perm nodup
  rw [settled] at perm
  exact ⟨member.2, List.perm_singleton.mp perm.symm, rfl⟩

/-- Without members in the end, there were none. -/
theorem eq_nil_of_drafted_settled {trees : List (String × Tree)}
    (nodup : (trees.map (·.1)).Nodup) (none : Tree.drafted (Tree.settled trees) = []) :
    trees = [] := by
  have perm := Tree.settled_perm nodup
  rw [List.map_eq_nil_iff.mp none] at perm
  exact perm.nil_eq.symm

theorem choice_routesAgree (choice : Choice α) : (Shape.choice choice).RoutesAgree := by
  refine ⟨?_, ?_⟩
  · intro draft tree value shown read
    rw [read_choice_eq_ok_iff] at read ⊢
    obtain ⟨name, alone | sole, known⟩ := read
    · exact ⟨name, .inl ((shown.eq_iff_of_isPlain rfl).mp alone), known⟩
    · rw [sole] at shown
      obtain ⟨trees, rfl, each⟩ := shown.of_object
      cases each with
      | @cons _ member _ _ here none =>
        cases none
        refine ⟨name, .inr ?_, known⟩
        rw [Tree.toDraft, Tree.membersToDraft_eq, drafted_settled_singleton, ← here.1,
          (here.2.eq_iff_of_isPlain rfl).mp rfl]
  · intro draft tree value shown distinct read
    rw [read_choice_eq_ok_iff] at read ⊢
    obtain ⟨name, alone | sole, known⟩ := read
    · exact ⟨name, .inl ((shown.eq_iff_of_isPlain rfl).mpr alone), known⟩
    · obtain ⟨named, trees, rfl, rfl, each⟩ := shown.of_toDraft_object sole
      rw [Tree.toDraft, Tree.membersToDraft_eq, Draft.object.injEq] at sole
      have nodup := Draft.nodup_of_spelled distinct.1
      rw [Draft.names_eq each] at nodup
      obtain ⟨tree, rfl, attached⟩ :=
        eq_singleton_of_drafted_settled nodup (Draft.spelled_injective sole.1)
      cases each with
      | @cons member _ _ _ here none =>
        cases none
        refine ⟨name, .inr ?_, known⟩
        rw [show member = (name, .null) from
          Prod.ext here.1 ((here.2.eq_iff_of_isPlain rfl).mpr attached)]

/-! ### Values that may be absent, lists and views -/

theorem optional_routesAgree {shape : Shape α} (inner : shape.RoutesAgree) :
    shape.optional.RoutesAgree := by
  refine ⟨?_, ?_⟩
  · intro draft tree value shown read
    rw [read_optional_eq_ok_iff] at read ⊢
    have null : draft = .null ↔ tree.toDraft = .null := shown.eq_iff_of_isPlain rfl
    obtain ⟨absent, same⟩ | ⟨other, present, found, same⟩ := read
    · exact .inl ⟨null.mp absent, same⟩
    · exact .inr ⟨mt null.mpr other, present, inner.tree_of_text shown found, same⟩
  · intro draft tree value shown distinct read
    rw [read_optional_eq_ok_iff] at read ⊢
    have null : draft = .null ↔ tree.toDraft = .null := shown.eq_iff_of_isPlain rfl
    obtain ⟨absent, same⟩ | ⟨other, present, found, same⟩ := read
    · exact .inl ⟨null.mpr absent, same⟩
    · exact .inr ⟨mt null.mp other, present, inner.text_of_tree shown distinct found, same⟩

theorem orNull_routesAgree {shape : Shape α} (default : α) (inner : shape.RoutesAgree) :
    (shape.orNull default).RoutesAgree := by
  refine ⟨?_, ?_⟩
  · intro draft tree value shown read
    rw [read_orNull_eq_ok_iff] at read ⊢
    have null : draft = .null ↔ tree.toDraft = .null := shown.eq_iff_of_isPlain rfl
    obtain ⟨absent, same⟩ | ⟨other, found⟩ := read
    · exact .inl ⟨null.mp absent, same⟩
    · exact .inr ⟨mt null.mpr other, inner.tree_of_text shown found⟩
  · intro draft tree value shown distinct read
    rw [read_orNull_eq_ok_iff] at read ⊢
    have null : draft = .null ↔ tree.toDraft = .null := shown.eq_iff_of_isPlain rfl
    obtain ⟨absent, same⟩ | ⟨other, found⟩ := read
    · exact .inl ⟨null.mpr absent, same⟩
    · exact .inr ⟨mt null.mp other, inner.text_of_tree shown distinct found⟩

theorem list_routesAgree {shape : Shape α} (inner : shape.RoutesAgree) :
    shape.list.RoutesAgree := by
  refine ⟨?_, ?_⟩
  · intro draft tree values shown read
    rw [read_list_eq_ok_iff] at read ⊢
    obtain ⟨items, rfl, read⟩ := read
    obtain ⟨trees, rfl, each⟩ := shown.of_list
    refine ⟨trees.map Tree.toDraft, by rw [Tree.toDraft, Tree.itemsToDraft_eq], ?_⟩
    clear shown
    induction each generalizing values with
    | nil =>
      cases read
      exact .nil
    | cons here _ ih =>
      cases read with
      | cons first later => exact .cons (inner.tree_of_text here first) (ih later)
  · intro draft tree values shown distinct read
    rw [read_list_eq_ok_iff] at read ⊢
    obtain ⟨drafts, whole, read⟩ := read
    obtain ⟨items, trees, rfl, rfl, each⟩ := shown.of_toDraft_list whole
    rw [Tree.toDraft, Tree.itemsToDraft_eq, Draft.list.injEq] at whole
    rw [← whole.1] at read
    have free : ∀ item ∈ items, item.Distinct := Draft.ItemsDistinct.each distinct
    refine ⟨items, rfl, ?_⟩
    clear whole shown distinct
    induction each generalizing values with
    | nil =>
      cases read
      exact .nil
    | cons here _ ih =>
      rw [List.map_cons] at read
      cases read with
      | cons first later =>
        exact .cons (inner.text_of_tree here (free _ List.mem_cons_self) first)
          (ih later fun item member => free item (List.mem_cons_of_mem _ member))

theorem via_routesAgree {shape : Shape α} (view : View α β) (inner : shape.RoutesAgree) :
    (Shape.via view shape).RoutesAgree := by
  refine ⟨?_, ?_⟩
  · intro draft tree value shown read
    rw [read_via_eq_ok_iff] at read ⊢
    obtain ⟨given, found, same⟩ := read
    exact ⟨given, inner.tree_of_text shown found, same⟩
  · intro draft tree value shown distinct read
    rw [read_via_eq_ok_iff] at read ⊢
    obtain ⟨given, found, same⟩ := read
    exact ⟨given, inner.text_of_tree shown distinct found, same⟩

end Shape

/-! ### Members of an object -/

/-- What a slot holds, straight from the text, it holds from the tree. -/
theorem holds_tree_of_text {shape : Shape α} (inner : shape.RoutesAgree)
    {named : List (String × Draft)} {trees : List (String × Tree)} {slot : Option α}
    (each : List.Forall₂ Draft.ShowsMember named trees)
    (held : Holds (shape.read .text) named slot) :
    Holds (shape.read .tree) (Tree.drafted (Tree.settled trees)) slot := by
  cases held with
  | absent =>
    cases each
    exact .absent
  | present here =>
    cases each with
    | @cons _ member _ _ shown none =>
      cases none
      obtain ⟨_, shown⟩ := shown
      rw [Shape.drafted_settled_singleton]
      exact .present (inner.tree_of_text shown here)

/-- What a slot holds from the tree, it holds straight from the text, when no name is repeated. -/
theorem holds_text_of_tree {shape : Shape α} (inner : shape.RoutesAgree)
    {named : List (String × Draft)} {trees : List (String × Tree)} {slot : Option α}
    (each : List.Forall₂ Draft.ShowsMember named trees) (nodup : (trees.map (·.1)).Nodup)
    (distinct : ∀ member ∈ named, member.2.Distinct)
    (held : Holds (shape.read .tree) (Tree.drafted (Tree.settled trees)) slot) :
    Holds (shape.read .text) named slot := by
  generalize whole : Tree.drafted (Tree.settled trees) = members at held
  cases held with
  | absent =>
    rw [Shape.eq_nil_of_drafted_settled nodup whole] at each
    cases each
    exact .absent
  | present here =>
    obtain ⟨tree, rfl, rfl⟩ := Shape.eq_singleton_of_drafted_settled nodup whole
    cases each with
    | @cons member _ _ _ shown none =>
      cases none
      obtain ⟨_, shown⟩ := shown
      exact .present (inner.text_of_tree shown (distinct member List.mem_cons_self) here)

/-- What is gathered straight from the text is gathered from the tree. -/
theorem Members.gathers_tree_of_text : {σ ρ : Type} → (members : Members σ ρ) →
    members.RoutesAgree → {named : List (String × Draft)} → {trees : List (String × Tree)} →
    {slots : σ} → List.Forall₂ Draft.ShowsMember named trees →
    members.Gathers .text named slots →
    members.Gathers .tree (Tree.drafted (Tree.settled trees)) slots
  | _, _, .nil, _, _, _, _, _, _ => by
    rw [Members.Gathers]
    intro member found
    obtain ⟨tree, _, rfl⟩ := List.mem_map.mp found
    exact Tree.isSound_toDraft tree.2
  | _, _, .cons own aliases shape _ _ rest, agree, _, trees, (slot, slots), each, gathered => by
    obtain ⟨inner, agree⟩ := agree
    obtain ⟨held, others⟩ := gathered
    refine ⟨?_, ?_⟩
    · rw [Tree.filter_drafted _ (bears own aliases), Tree.filter_settled]
      exact holds_tree_of_text inner (Draft.filter_showsMember each _) held
    · rw [Tree.filter_drafted _ (fun name => !bears own aliases name),
        Tree.filter_settled _ (fun name => !bears own aliases name)]
      exact rest.gathers_tree_of_text agree
        (Draft.filter_showsMember each fun name => !bears own aliases name) others

/-- What is gathered from the tree is gathered straight from the text, when no name is repeated. -/
theorem Members.gathers_text_of_tree : {σ ρ : Type} → (members : Members σ ρ) →
    members.RoutesAgree → {named : List (String × Draft)} → {trees : List (String × Tree)} →
    {slots : σ} → List.Forall₂ Draft.ShowsMember named trees → (trees.map (·.1)).Nodup →
    (∀ member ∈ named, member.2.Distinct) →
    members.Gathers .tree (Tree.drafted (Tree.settled trees)) slots →
    members.Gathers .text named slots
  | _, _, .nil, _, _, _, _, each, _, _, _ => by
    rw [Members.Gathers]
    exact Draft.isSound_of_showsMember each
  | _, _, .cons own aliases shape _ _ rest, agree, named, trees, (slot, slots), each, nodup,
      distinct, gathered => by
    obtain ⟨inner, agree⟩ := agree
    obtain ⟨held, others⟩ := gathered
    have fewer : ∀ chosen : String → Bool,
        ((trees.filter fun member => chosen member.1).map (·.1)).Nodup := by
      intro chosen
      exact nodup.sublist (List.filter_sublist.map _)
    have free : ∀ chosen : String → Bool,
        ∀ member ∈ named.filter fun member => chosen member.1, member.2.Distinct := by
      intro chosen member found
      obtain ⟨stood, _⟩ := List.mem_filter.mp found
      exact distinct member stood
    refine ⟨?_, ?_⟩
    · rw [Tree.filter_drafted _ (bears own aliases), Tree.filter_settled] at held
      exact holds_text_of_tree inner (Draft.filter_showsMember each _) (fewer _) (free _) held
    · rw [Tree.filter_drafted _ (fun name => !bears own aliases name),
        Tree.filter_settled _ (fun name => !bears own aliases name)] at others
      exact rest.gathers_text_of_tree agree
        (Draft.filter_showsMember each fun name => !bears own aliases name)
        (fewer fun name => !bears own aliases name) (free fun name => !bears own aliases name)
        others

/-! ### Members from a list -/

/-- What is filled straight from the text is filled from the tree. -/
theorem Members.fills_tree_of_text : {σ ρ : Type} → (members : Members σ ρ) →
    members.RoutesAgree → {items : List Draft} → {trees : List Tree} → {values : ρ} →
    List.Forall₂ Draft.Shows items trees → members.Fills .text items values →
    members.Fills .tree (trees.map Tree.toDraft) values
  | _, _, .nil, _, _, _, _, each, filled => by
    rw [Members.Fills] at filled ⊢
    subst filled
    cases each
    rfl
  | _, _, .cons _ _ _ _ _ rest, agree, _, _, (value, values), .nil, filled => by
    obtain ⟨_, others⟩ := agree
    obtain ⟨given, absent⟩ := filled
    exact ⟨given, rest.fills_tree_of_text others .nil absent⟩
  | _, _, .cons _ _ _ _ _ rest, agree, _, _, (value, values), .cons here later, filled => by
    obtain ⟨inner, others⟩ := agree
    obtain ⟨first, remaining⟩ := filled
    exact ⟨inner.tree_of_text here first, rest.fills_tree_of_text others later remaining⟩

/-- What is filled from the tree is filled straight from the text, when no name is repeated. -/
theorem Members.fills_text_of_tree : {σ ρ : Type} → (members : Members σ ρ) →
    members.RoutesAgree → {items : List Draft} → {trees : List Tree} → {values : ρ} →
    List.Forall₂ Draft.Shows items trees → (∀ item ∈ items, item.Distinct) →
    members.Fills .tree (trees.map Tree.toDraft) values → members.Fills .text items values
  | _, _, .nil, _, _, _, _, each, _, filled => by
    rw [Members.Fills, List.map_eq_nil_iff] at filled
    subst filled
    cases each
    rw [Members.Fills]
  | _, _, .cons _ _ _ _ _ rest, agree, _, _, (value, values), .nil, distinct, filled => by
    obtain ⟨_, others⟩ := agree
    obtain ⟨given, absent⟩ := filled
    exact ⟨given, rest.fills_text_of_tree others .nil distinct absent⟩
  | _, _, .cons _ _ _ _ _ rest, agree, _, _, (value, values), .cons here later, distinct,
      filled => by
    obtain ⟨inner, others⟩ := agree
    obtain ⟨first, remaining⟩ := filled
    obtain ⟨plain, free⟩ := List.forall_mem_cons.mp distinct
    exact ⟨inner.text_of_tree here plain first,
      rest.fills_text_of_tree others later free remaining⟩

/-! ### Records -/

theorem Shape.record_routesAgree {σ ρ : Type} (title : String) {members : Members σ ρ}
    (agree : members.RoutesAgree) : (Shape.record title members).RoutesAgree := by
  refine ⟨?_, ?_⟩
  · intro draft tree value shown read
    rw [read_record_eq_ok_iff] at read ⊢
    obtain ⟨named, slots, rfl, gathered, completed⟩ | ⟨items, rfl, filled⟩ := read
    · obtain ⟨trees, rfl, each⟩ := shown.of_object
      refine .inl ⟨_, slots, ?_, members.gathers_tree_of_text agree each gathered, completed⟩
      rw [Tree.toDraft, Tree.membersToDraft_eq]
    · obtain ⟨trees, rfl, each⟩ := shown.of_list
      refine .inr ⟨_, ?_, members.fills_tree_of_text agree each filled⟩
      rw [Tree.toDraft, Tree.itemsToDraft_eq]
  · intro draft tree value shown distinct read
    rw [read_record_eq_ok_iff] at read ⊢
    obtain ⟨given, slots, whole, gathered, completed⟩ | ⟨given, whole, filled⟩ := read
    · obtain ⟨named, trees, rfl, rfl, each⟩ := shown.of_toDraft_object whole
      rw [Tree.toDraft, Tree.membersToDraft_eq, Draft.object.injEq] at whole
      rw [← Draft.spelled_injective whole.1] at gathered
      obtain ⟨nodup, distinct⟩ := distinct
      have names := Draft.nodup_of_spelled nodup
      rw [Draft.names_eq each] at names
      exact .inl ⟨named, slots, rfl,
        members.gathers_text_of_tree agree each names (Draft.MembersDistinct.each distinct)
          gathered, completed⟩
    · obtain ⟨items, trees, rfl, rfl, each⟩ := shown.of_toDraft_list whole
      rw [Tree.toDraft, Tree.itemsToDraft_eq, Draft.list.injEq] at whole
      rw [← whole.1] at filled
      exact .inr ⟨items, rfl,
        members.fills_text_of_tree agree each (Draft.ItemsDistinct.each distinct) filled⟩

/-! ### All shapes -/

mutual

/-- **The routes agree about every shape.** -/
theorem Shape.routesAgree : {α : Type} → (shape : Shape α) → shape.RoutesAgree
  | _, .text => Shape.text_routesAgree
  | _, .flag => Shape.flag_routesAgree
  | _, .integer kind => Shape.integer_routesAgree kind
  | _, .choice choice => Shape.choice_routesAgree choice
  | _, .optional shape => Shape.optional_routesAgree shape.routesAgree
  | _, .orNull default shape => Shape.orNull_routesAgree default shape.routesAgree
  | _, .list shape => Shape.list_routesAgree shape.routesAgree
  | _, .record title members => Shape.record_routesAgree title members.routesAgree
  | _, .via view shape => Shape.via_routesAgree view shape.routesAgree

/-- The routes agree about the members of every record. -/
theorem Members.routesAgree : {σ ρ : Type} → (members : Members σ ρ) → members.RoutesAgree
  | _, _, .nil => trivial
  | _, _, .cons _ _ shape _ _ rest => ⟨shape.routesAgree, rest.routesAgree⟩

end

/-! ### Whole texts -/

variable {shape : Shape α} {bytes : Bytes} {tree : Tree} {value : α}

/-- A text gives a value when its root does and nothing follows. -/
theorem Shape.decode_eq_ok_iff :
    shape.decode bytes = .ok value ↔
      shape.read .text (Document.read bytes).root = .ok value ∧
        (Document.read bytes).clean = true := by
  unfold Shape.decode
  dsimp only
  cases shape.read .text (Document.read bytes).root with
  | error fault => simp only [reduceCtorEq, false_and]
  | ok found =>
    by_cases clean : (Document.read bytes).clean = true
    · simp only [clean, if_true, and_true]
    · simp only [clean, if_false, reduceCtorEq, and_false]

/-- The root of a text that has a tree shows it, and nothing follows. -/
theorem Document.shows_of_tree? {document : Document} (found : document.tree? = some tree) :
    document.root.Shows tree ∧ document.clean = true := by
  unfold Document.tree? at found
  split at found
  · rename_i clean
    exact ⟨⟨_, found⟩, clean⟩
  · cases found

/-- **What a text gives, its tree gives.** -/
theorem ofTree_eq_ok_of_decode (found : (Document.read bytes).tree? = some tree)
    (decoded : shape.decode bytes = .ok value) : shape.ofTree tree = .ok value := by
  obtain ⟨shown, _⟩ := Document.shows_of_tree? found
  obtain ⟨read, _⟩ := Shape.decode_eq_ok_iff.mp decoded
  exact shape.routesAgree.tree_of_text shown read

/-- **What a text gives and what its tree gives are the same**, when no object repeats a name. -/
theorem decode_eq_ok_iff_ofTree (found : (Document.read bytes).tree? = some tree)
    (distinct : (Document.read bytes).root.Distinct) :
    shape.decode bytes = .ok value ↔ shape.ofTree tree = .ok value := by
  obtain ⟨shown, clean⟩ := Document.shows_of_tree? found
  refine ⟨?_, ?_⟩
  · intro decoded
    exact ofTree_eq_ok_of_decode found decoded
  · intro read
    exact Shape.decode_eq_ok_iff.mpr
      ⟨shape.routesAgree.text_of_tree shown distinct read, clean⟩

end Json

end SignedPurchase
