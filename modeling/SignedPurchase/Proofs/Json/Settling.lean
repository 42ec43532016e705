import Mathlib.Data.List.Forall2
import Mathlib.Data.List.Nodup
import Mathlib.Data.String.Basic
import SignedPurchase.Json.Tree

/-
**From the order of a text to the order of names.**

A draft keeps its members as they stand; in the tree of the draft they stand in the order of their
names, and of repeated names the last is left. Looking at the members of some names only gives the
same, before or after.

* `Draft.Shows` relates a draft to its tree, `Draft.Shows.settles` takes the relation apart;
* `Tree.filter_settled`: choosing members by name goes before or after settling;
* `Tree.settled_perm`: settling only changes the order when no name is repeated;
* `Draft.Distinct` says that no object in a draft repeats a name.
-/

namespace SignedPurchase

namespace Json

/-- The members of an object whose names are all texts. -/
def Draft.spelled (named : List (String × Draft)) : List (Draft × Draft) :=
  named.map fun member => (.text (some member.1), member.2)

namespace Tree

/-! ### Settling -/

/-- Members that are put into their places one after the other. -/
def settled (members : List (String × Tree)) : List (String × Tree) :=
  members.foldl (fun before member => insertMember member.1 member.2 before) []

/-- Members stand in the order of their names, each name once. -/
def Ordered (members : List (String × Tree)) : Prop :=
  members.Pairwise fun first second => first.1 < second.1

variable {name : String} {value : Tree} {members : List (String × Tree)}

/-- A member that is put into its place is the only new one. -/
theorem mem_insertMember {member : String × Tree}
    (found : member ∈ insertMember name value members) :
    member = (name, value) ∨ member ∈ members := by
  induction members with
  | nil => exact .inl (List.mem_singleton.mp found)
  | cons first rest ih =>
    rw [insertMember] at found
    split at found
    · exact List.mem_cons.mp found
    · split at found
      · rcases List.mem_cons.mp found with new | old
        · exact .inl new
        · exact .inr (List.mem_cons_of_mem _ old)
      · rcases List.mem_cons.mp found with old | later
        · exact .inr (List.mem_cons.mpr (.inl old))
        · rcases ih later with new | old
          · exact .inl new
          · exact .inr (List.mem_cons_of_mem _ old)

theorem ordered_insertMember (ordered : Ordered members) :
    Ordered (insertMember name value members) := by
  induction members with
  | nil => exact List.pairwise_singleton _ _
  | cons first rest ih =>
    obtain ⟨before, later⟩ := List.pairwise_cons.mp ordered
    rw [insertMember]
    split
    · rename_i less
      refine List.pairwise_cons.mpr ⟨?_, ordered⟩
      intro member found
      rcases List.mem_cons.mp found with rfl | old
      · exact less
      · exact lt_trans less (before member old)
    · rename_i notLess
      split
      · rename_i same
        subst same
        exact List.pairwise_cons.mpr ⟨before, later⟩
      · rename_i other
        refine List.pairwise_cons.mpr ⟨?_, ih later⟩
        intro member found
        rcases mem_insertMember found with rfl | old
        · exact lt_of_le_of_ne (not_lt.mp notLess) (Ne.symm other)
        · exact before member old

/-- A member that goes before all others goes to the front. -/
theorem insertMember_of_lt (before : ∀ member ∈ members, name < member.1) :
    insertMember name value members = (name, value) :: members := by
  cases members with
  | nil => rfl
  | cons first rest => rw [insertMember, if_pos (before first List.mem_cons_self)]

/-- **Choosing members by name** goes before or after a member is put into its place. -/
theorem filter_insertMember (ordered : Ordered members) (chosen : String → Bool) :
    (insertMember name value members).filter (fun member => chosen member.1) =
      if chosen name then insertMember name value (members.filter fun member => chosen member.1)
      else members.filter fun member => chosen member.1 := by
  induction members with
  | nil =>
    rw [insertMember, List.filter_nil, insertMember, List.filter_singleton]
    cases chosen name with
    | true => rfl
    | false => rfl
  | cons first rest ih =>
    obtain ⟨before, later⟩ := List.pairwise_cons.mp ordered
    rw [insertMember]
    split
    · rename_i less
      rw [List.filter_cons]
      -- The new member goes before all the others, chosen or not.
      have front : ∀ member ∈ (first :: rest).filter (fun member => chosen member.1),
          name < member.1 := by
        intro member found
        obtain ⟨stood, _⟩ := List.mem_filter.mp found
        rcases List.mem_cons.mp stood with rfl | old
        · exact less
        · exact lt_trans less (before member old)
      rw [insertMember_of_lt front]
    · rename_i notLess
      split
      · rename_i same
        subst same
        rw [List.filter_cons, List.filter_cons]
        by_cases picked : chosen first.1 = true
        · rw [if_pos picked, if_pos picked, if_pos picked, insertMember, if_neg notLess, if_pos rfl]
        · rw [if_neg picked, if_neg picked, if_neg picked]
      · rename_i other
        rw [List.filter_cons, List.filter_cons, ih later]
        by_cases picked : chosen name = true
        · rw [if_pos picked, if_pos picked]
          by_cases kept : chosen first.1 = true
          · rw [if_pos kept, if_pos kept, insertMember, if_neg notLess, if_neg other]
          · rw [if_neg kept, if_neg kept]
        · rw [if_neg picked, if_neg picked]

theorem ordered_foldl {before : List (String × Tree)} (ordered : Ordered before) :
    Ordered (members.foldl (fun before member => insertMember member.1 member.2 before) before) := by
  induction members generalizing before with
  | nil => exact ordered
  | cons first rest ih => exact ih (ordered_insertMember ordered)

/-- Settled members stand in the order of their names. -/
theorem ordered_settled (members : List (String × Tree)) : Ordered (settled members) :=
  ordered_foldl List.Pairwise.nil

theorem filter_foldl {before : List (String × Tree)} (ordered : Ordered before)
    (chosen : String → Bool) :
    (members.foldl (fun before member => insertMember member.1 member.2 before) before).filter
        (fun member => chosen member.1) =
      (members.filter fun member => chosen member.1).foldl
        (fun before member => insertMember member.1 member.2 before)
        (before.filter fun member => chosen member.1) := by
  induction members generalizing before with
  | nil => rfl
  | cons first rest ih =>
    rw [List.foldl_cons, ih (ordered_insertMember ordered), filter_insertMember ordered,
      List.filter_cons]
    by_cases picked : chosen first.1 = true
    · rw [if_pos picked, if_pos picked, List.foldl_cons]
    · rw [if_neg picked, if_neg picked]

/-- **Choosing members by name goes before or after settling.** -/
theorem filter_settled (members : List (String × Tree)) (chosen : String → Bool) :
    (settled members).filter (fun member => chosen member.1) =
      settled (members.filter fun member => chosen member.1) :=
  filter_foldl List.Pairwise.nil chosen

theorem insertMember_perm (fresh : ∀ member ∈ members, member.1 ≠ name) :
    (insertMember name value members).Perm ((name, value) :: members) := by
  induction members with
  | nil => exact List.Perm.refl _
  | cons first rest ih =>
    rw [insertMember]
    split
    · exact List.Perm.refl _
    · rw [if_neg (Ne.symm (fresh first List.mem_cons_self))]
      have later := ih fun member found => fresh member (List.mem_cons_of_mem _ found)
      exact (later.cons first).trans (List.Perm.swap _ _ _)

theorem foldl_perm {before : List (String × Tree)}
    (nodup : ((before ++ members).map (·.1)).Nodup) :
    (members.foldl (fun before member => insertMember member.1 member.2 before) before).Perm
      (before ++ members) := by
  induction members generalizing before with
  | nil =>
    rw [List.append_nil]
    exact List.Perm.refl _
  | cons first rest ih =>
    have fresh : ∀ member ∈ before, member.1 ≠ first.1 := by
      intro member found same
      rw [List.map_append, List.map_cons, List.nodup_append] at nodup
      exact nodup.2.2 member.1 (List.mem_map_of_mem found) first.1 List.mem_cons_self same
    have placed : (insertMember first.1 first.2 before ++ rest).Perm (before ++ first :: rest) :=
      ((insertMember_perm fresh).append_right rest).trans List.perm_middle.symm
    have renamed := (placed.map (·.1)).nodup_iff.mpr nodup
    exact (ih renamed).trans placed

/-- **Settling only changes the order** when no name is repeated. -/
theorem settled_perm (nodup : (members.map (·.1)).Nodup) : (settled members).Perm members :=
  foldl_perm nodup

/-! ### Trees of drafts -/

/-- The members of a tree as drafts. -/
def drafted (members : List (String × Tree)) : List (String × Draft) :=
  members.map fun member => (member.1, member.2.toDraft)

/-- Choosing members by name goes before or after making them drafts. -/
theorem filter_drafted (members : List (String × Tree)) (chosen : String → Bool) :
    (drafted members).filter (fun member => chosen member.1) =
      drafted (members.filter fun member => chosen member.1) :=
  List.filter_map

theorem itemsToDraft_eq (items : List Tree) : itemsToDraft items = items.map toDraft := by
  induction items with
  | nil => rfl
  | cons item rest ih => rw [itemsToDraft, ih, List.map_cons]

theorem membersToDraft_eq (members : List (String × Tree)) :
    membersToDraft members = Draft.spelled (drafted members) := by
  induction members with
  | nil => rfl
  | cons member rest ih =>
    rw [membersToDraft, ih]
    rfl

/-- The trees of items are those of each. -/
theorem forall₂_of_itemsOfDraft? {items : List Draft} {depth : Nat} {trees : List Tree}
    (found : itemsOfDraft? items depth = some trees) :
    List.Forall₂ (fun item tree => ofDraft? item depth = some tree) items trees := by
  induction items generalizing trees with
  | nil =>
    cases found
    exact .nil
  | cons item rest ih =>
    rw [itemsOfDraft?] at found
    split at found
    · rename_i first others here later
      cases found
      exact .cons here (ih later)
    · cases found

/-- The trees of members are those of each, put into their places. -/
theorem spelled_of_membersOfDraft? {members : List (Draft × Draft)} {depth : Nat}
    {before after : List (String × Tree)}
    (found : membersOfDraft? members depth before = some after) :
    ∃ named trees, members = Draft.spelled named ∧
      List.Forall₂ (fun (member : String × Draft) (tree : String × Tree) =>
        member.1 = tree.1 ∧ ofDraft? member.2 depth = some tree.2) named trees ∧
      after = trees.foldl (fun before member => insertMember member.1 member.2 before) before := by
  induction members generalizing before with
  | nil =>
    cases found
    exact ⟨[], [], rfl, .nil, rfl⟩
  | cons member rest ih =>
    rw [membersOfDraft?.eq_def] at found
    split at found
    · rename_i none
      cases none
    · rename_i name value others whole
      cases whole
      split at found
      · rename_i tree here
        obtain ⟨named, trees, spelled, related, settled⟩ := ih found
        refine ⟨(name, value) :: named, (name, tree) :: trees, ?_, .cons ⟨rfl, here⟩ related,
          settled⟩
        rw [spelled]
        rfl
      · cases found
    · cases found

/-- A list that has a tree is closed, and its items have trees. -/
theorem list_of_ofDraft? {items : List Draft} {closed : Bool} {depth : Nat} {tree : Tree}
    (found : ofDraft? (.list items closed) depth = some tree) :
    closed = true ∧ ∃ depth trees, itemsOfDraft? items depth = some trees ∧ tree = .list trees := by
  cases depth with
  | zero =>
    rw [ofDraft?] at found
    cases found
  | succ depth =>
    unfold ofDraft? at found
    split at found
    · rename_i trees here
      cases found
      exact ⟨rfl, depth, trees, here, rfl⟩
    · cases found

/-- An object that has a tree is closed, and its members have trees. -/
theorem object_of_ofDraft? {members : List (Draft × Draft)} {closed : Bool} {depth : Nat}
    {tree : Tree} (found : ofDraft? (.object members closed) depth = some tree) :
    closed = true ∧
      ∃ depth trees, membersOfDraft? members depth [] = some trees ∧ tree = .object trees := by
  cases depth with
  | zero =>
    rw [ofDraft?] at found
    cases found
  | succ depth =>
    unfold ofDraft? at found
    split at found
    · rename_i trees here
      cases found
      exact ⟨rfl, depth, trees, here, rfl⟩
    · cases found

mutual

/-- Nothing is wrong in a draft that has a tree. -/
theorem isSound_of_ofDraft? : (draft : Draft) → {depth : Nat} → {tree : Tree} →
    ofDraft? draft depth = some tree → draft.isSound = true
  | .null, _, _, _ => rfl
  | .flag _, _, _, _ => rfl
  | .number _, _, _, _ => rfl
  | .text _, _, _, _ => rfl
  | .list items _, _, _, found => by
    obtain ⟨rfl, _, _, here, _⟩ := list_of_ofDraft? found
    exact itemsSound_of_itemsOfDraft? items here
  | .object members _, _, _, found => by
    obtain ⟨rfl, _, _, here, _⟩ := object_of_ofDraft? found
    exact membersSound_of_membersOfDraft? members here
  | .broken, _, _, found => by
    rw [ofDraft?] at found
    cases found

theorem itemsSound_of_itemsOfDraft? : (items : List Draft) → {depth : Nat} → {trees : List Tree} →
    itemsOfDraft? items depth = some trees → Draft.itemsSound items = true
  | [], _, _, _ => rfl
  | item :: rest, _, _, found => by
    rw [itemsOfDraft?] at found
    split at found
    · rename_i here later
      rw [Draft.itemsSound, isSound_of_ofDraft? item here, itemsSound_of_itemsOfDraft? rest later]
      rfl
    · cases found

theorem membersSound_of_membersOfDraft? : (members : List (Draft × Draft)) → {depth : Nat} →
    {before after : List (String × Tree)} →
    membersOfDraft? members depth before = some after → Draft.membersSound members = true
  | [], _, _, _, _ => rfl
  | (_, value) :: rest, _, _, _, found => by
    rw [membersOfDraft?.eq_def] at found
    split at found
    · rename_i none
      cases none
    · rename_i whole
      cases whole
      split at found
      · rename_i here
        rw [Draft.membersSound, isSound_of_ofDraft? value here,
          membersSound_of_membersOfDraft? rest found]
        rfl
      · cases found
    · cases found

end

mutual

/-- Nothing is wrong in a tree. -/
theorem isSound_toDraft : (tree : Tree) → tree.toDraft.isSound = true
  | .null => rfl
  | .flag _ => rfl
  | .number _ => rfl
  | .text _ => rfl
  | .list items => itemsSound_itemsToDraft items
  | .object members => membersSound_membersToDraft members

theorem itemsSound_itemsToDraft : (items : List Tree) →
    Draft.itemsSound (itemsToDraft items) = true
  | [] => rfl
  | item :: rest => by
    rw [itemsToDraft, Draft.itemsSound, isSound_toDraft item, itemsSound_itemsToDraft rest]
    rfl

theorem membersSound_membersToDraft : (members : List (String × Tree)) →
    Draft.membersSound (membersToDraft members) = true
  | [] => rfl
  | (name, value) :: rest => by
    rw [membersToDraft, Draft.membersSound, isSound_toDraft value,
      membersSound_membersToDraft rest]
    rfl

end

end Tree

namespace Draft

/-! ### What a draft shows -/

/-- A draft shows a tree, however deeply it is nested. -/
def Shows (draft : Draft) (tree : Tree) : Prop :=
  ∃ depth, Tree.ofDraft? draft depth = some tree

/-- A member of a draft shows a member of a tree. -/
def ShowsMember (member : String × Draft) (tree : String × Tree) : Prop :=
  member.1 = tree.1 ∧ member.2.Shows tree.2

/-- The ways in which a draft shows a tree. -/
inductive Settles : Draft → Tree → Prop where
  | null : Settles .null .null
  | flag (value : Bool) : Settles (.flag value) (.flag value)
  | number (value : Number) : Settles (.number (some value)) (.number value)
  | text (value : String) : Settles (.text (some value)) (.text value)
  | list {items : List Draft} {trees : List Tree} (each : List.Forall₂ Shows items trees) :
    Settles (.list items true) (.list trees)
  | object {named : List (String × Draft)} {trees : List (String × Tree)}
    (each : List.Forall₂ ShowsMember named trees) :
    Settles (.object (spelled named) true) (.object (Tree.settled trees))

/-- **A draft shows a tree in one of these ways.** -/
theorem Shows.settles {draft : Draft} {tree : Tree} (shown : draft.Shows tree) :
    Settles draft tree := by
  obtain ⟨depth, found⟩ := shown
  cases draft with
  | null =>
    rw [Tree.ofDraft?] at found
    cases found
    exact .null
  | flag value =>
    rw [Tree.ofDraft?] at found
    cases found
    exact .flag value
  | number value =>
    cases value with
    | none =>
      rw [Tree.ofDraft?] at found
      cases found
    | some value =>
      rw [Tree.ofDraft?] at found
      cases found
      exact .number value
  | text value =>
    cases value with
    | none =>
      rw [Tree.ofDraft?] at found
      cases found
    | some value =>
      rw [Tree.ofDraft?] at found
      cases found
      exact .text value
  | list items closed =>
    obtain ⟨rfl, depth, trees, each, rfl⟩ := Tree.list_of_ofDraft? found
    exact .list ((Tree.forall₂_of_itemsOfDraft? each).imp fun _ _ here => ⟨depth, here⟩)
  | object members closed =>
    obtain ⟨rfl, depth, after, each, rfl⟩ := Tree.object_of_ofDraft? found
    obtain ⟨named, trees, rfl, related, rfl⟩ := Tree.spelled_of_membersOfDraft? each
    exact .object (related.imp fun _ _ here => ⟨here.1, depth, here.2⟩)
  | broken =>
    rw [Tree.ofDraft?] at found
    cases found

/-- Nothing is wrong in a draft that shows a tree. -/
theorem Shows.isSound {draft : Draft} {tree : Tree} (shown : draft.Shows tree) :
    draft.isSound = true :=
  Tree.isSound_of_ofDraft? draft shown.choose_spec

/-- Nothing is wrong in members that show trees. -/
theorem isSound_of_showsMember {named : List (String × Draft)} {trees : List (String × Tree)}
    (each : List.Forall₂ ShowsMember named trees) : ∀ member ∈ named, member.2.isSound = true := by
  induction each with
  | nil => exact fun member none => absurd none List.not_mem_nil
  | cons here _ ih => exact List.forall_mem_cons.mpr ⟨here.2.isSound, ih⟩

/-- Whether a draft is neither a list nor an object. -/
def isPlain : Draft → Bool
  | .list _ _ => false
  | .object _ _ => false
  | _ => true

/-- **What is neither a list nor an object stays what it is.** -/
theorem Shows.eq_iff_of_isPlain {draft plain : Draft} {tree : Tree} (shown : draft.Shows tree)
    (isPlain : plain.isPlain = true) : draft = plain ↔ tree.toDraft = plain := by
  cases shown.settles with
  | null => rw [Tree.toDraft]
  | flag value => rw [Tree.toDraft]
  | number value => rw [Tree.toDraft]
  | text value => rw [Tree.toDraft]
  | list each =>
    rw [Tree.toDraft]
    refine ⟨?_, ?_⟩
    · rintro rfl
      cases isPlain
    · rintro rfl
      cases isPlain
  | object each =>
    rw [Tree.toDraft]
    refine ⟨?_, ?_⟩
    · rintro rfl
      cases isPlain
    · rintro rfl
      cases isPlain

/-- Different members are spelled differently. -/
theorem spelled_injective : Function.Injective spelled := by
  refine List.map_injective_iff.mpr ?_
  rintro ⟨name, value⟩ ⟨other, another⟩ same
  cases same
  rfl

/-- The tree of an object. -/
theorem Shows.of_object {named : List (String × Draft)} {tree : Tree}
    (shown : (Draft.object (spelled named) true).Shows tree) :
    ∃ trees, tree = .object (Tree.settled trees) ∧ List.Forall₂ ShowsMember named trees := by
  generalize whole : Draft.object (spelled named) true = draft at shown
  cases shown.settles with
  | object each =>
    rw [Draft.object.injEq] at whole
    rw [spelled_injective whole.1]
    exact ⟨_, rfl, each⟩
  | null => cases whole
  | flag value => cases whole
  | number value => cases whole
  | text value => cases whole
  | list each => cases whole

/-- The draft of a tree that is an object. -/
theorem Shows.of_toDraft_object {draft : Draft} {tree : Tree} {members : List (Draft × Draft)}
    {closed : Bool} (shown : draft.Shows tree) (whole : tree.toDraft = .object members closed) :
    ∃ named trees, draft = .object (spelled named) true ∧ tree = .object (Tree.settled trees) ∧
      List.Forall₂ ShowsMember named trees := by
  cases shown.settles with
  | object each => exact ⟨_, _, rfl, rfl, each⟩
  | null => cases whole
  | flag value => cases whole
  | number value => cases whole
  | text value => cases whole
  | list each => cases whole

/-- The tree of a list. -/
theorem Shows.of_list {items : List Draft} {tree : Tree}
    (shown : (Draft.list items true).Shows tree) :
    ∃ trees, tree = .list trees ∧ List.Forall₂ Shows items trees := by
  cases shown.settles with
  | list each => exact ⟨_, rfl, each⟩

/-- The draft of a tree that is a list. -/
theorem Shows.of_toDraft_list {draft : Draft} {tree : Tree} {items : List Draft} {closed : Bool}
    (shown : draft.Shows tree) (whole : tree.toDraft = .list items closed) :
    ∃ items trees, draft = .list items true ∧ tree = .list trees ∧
      List.Forall₂ Shows items trees := by
  cases shown.settles with
  | list each => exact ⟨_, _, rfl, rfl, each⟩
  | null => cases whole
  | flag value => cases whole
  | number value => cases whole
  | text value => cases whole
  | object each => cases whole

/-- Choosing members by name keeps each beside its own. -/
theorem filter_showsMember {named : List (String × Draft)} {trees : List (String × Tree)}
    (each : List.Forall₂ ShowsMember named trees) (chosen : String → Bool) :
    List.Forall₂ ShowsMember (named.filter fun member => chosen member.1)
      (trees.filter fun member => chosen member.1) := by
  induction each with
  | nil => exact .nil
  | @cons member tree _ _ here _ ih =>
    rw [List.filter_cons, List.filter_cons, here.1]
    by_cases picked : chosen tree.1 = true
    · rw [if_pos picked, if_pos picked]
      exact .cons here ih
    · rw [if_neg picked, if_neg picked]
      exact ih

/-! ### Names that are not repeated -/

mutual

/-- No object in a draft repeats the name of a member. -/
def Distinct : Draft → Prop
  | .list items _ => ItemsDistinct items
  | .object members _ => (members.map (·.1)).Nodup ∧ MembersDistinct members
  | _ => True

/-- No object in the items of a list repeats the name of a member. -/
def ItemsDistinct : List Draft → Prop
  | [] => True
  | item :: rest => Distinct item ∧ ItemsDistinct rest

/-- No object in the values of members repeats the name of a member. -/
def MembersDistinct : List (Draft × Draft) → Prop
  | [] => True
  | (_, value) :: rest => Distinct value ∧ MembersDistinct rest

end

/-- Each item of a list is free of repeated names. -/
theorem ItemsDistinct.each {items : List Draft} (distinct : ItemsDistinct items) :
    ∀ item ∈ items, item.Distinct := by
  induction items with
  | nil => exact fun item none => absurd none List.not_mem_nil
  | cons first rest ih =>
    rw [ItemsDistinct] at distinct
    obtain ⟨here, others⟩ := distinct
    intro item member
    rcases List.mem_cons.mp member with rfl | later
    · exact here
    · exact ih others item later

/-- Each value of a member is free of repeated names. -/
theorem MembersDistinct.each {named : List (String × Draft)}
    (distinct : MembersDistinct (spelled named)) : ∀ member ∈ named, member.2.Distinct := by
  induction named with
  | nil => exact fun member none => absurd none List.not_mem_nil
  | cons first rest ih =>
    rw [spelled, List.map_cons, MembersDistinct] at distinct
    obtain ⟨here, others⟩ := distinct
    intro member found
    rcases List.mem_cons.mp found with rfl | later
    · exact here
    · exact ih others member later

/-- The names of an object without repeated names. -/
theorem nodup_of_spelled {named : List (String × Draft)}
    (nodup : ((spelled named).map (·.1)).Nodup) : (named.map (·.1)).Nodup := by
  have names : (spelled named).map (·.1) =
      (named.map (·.1)).map fun name => Draft.text (some name) := by
    rw [spelled, List.map_map, List.map_map]
    rfl
  rw [names] at nodup
  exact List.Nodup.of_map _ nodup

theorem names_eq {named : List (String × Draft)} {trees : List (String × Tree)}
    (each : List.Forall₂ ShowsMember named trees) : named.map (·.1) = trees.map (·.1) := by
  induction each with
  | nil => rfl
  | cons here _ ih => rw [List.map_cons, List.map_cons, ih, here.1]

end Draft

end Json

end SignedPurchase
