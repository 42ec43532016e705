import SignedPurchase.Proofs.Json.Grammar
import SignedPurchase.Proofs.Json.Settling

/-
**Trees that are written.**

The text of a tree is read as the draft of the tree again, as long as its numbers are integers of at
most sixty-four bits; and the draft has a tree in turn, as long as it is not nested too deeply.

* `Tree.Fits` says both of a tree;
* `Tree.isText_write`: what is written of a tree is a well-formed text of its draft;
* `Document.read_write` reads the text, `Document.exists_tree?_write` finds a tree in it.
-/

namespace SignedPurchase

namespace Json

namespace Tree

/-- The numbers of a tree are integers of at most sixty-four bits, and no more than so many lists and
objects stand inside each other. -/
def Fits : Nat → Tree → Prop
  | _, .number (.integer value) => Int64.minValue.toInt ≤ value ∧ value < UInt64.size
  | _, .number (.fraction _) => False
  | depth + 1, .list items => ∀ item ∈ items, Fits depth item
  | 0, .list _ => False
  | depth + 1, .object members => ∀ member ∈ members, Fits depth member.2
  | 0, .object _ => False
  | _, _ => True

@[simp]
theorem fits_null (depth : Nat) : Fits depth .null := by
  cases depth <;> simp [Fits]

@[simp]
theorem fits_flag (depth : Nat) (value : Bool) : Fits depth (.flag value) := by
  cases depth <;> simp [Fits]

@[simp]
theorem fits_text (depth : Nat) (value : String) : Fits depth (.text value) := by
  cases depth <;> simp [Fits]

/-! ### The text of a tree -/

open Lexeme (Cut)

mutual

/-- Nothing is missing from the draft of a tree. -/
theorem isWhole_toDraft : (tree : Tree) → tree.toDraft.isWhole = true
  | .null => rfl
  | .flag _ => rfl
  | .number _ => rfl
  | .text _ => rfl
  | .list items => by
    rw [toDraft, Draft.isWhole, itemsWhole_itemsToDraft items]
    rfl
  | .object members => by
    rw [toDraft, Draft.isWhole, membersWhole_membersToDraft members]
    rfl

theorem itemsWhole_itemsToDraft : (items : List Tree) → Draft.itemsWhole (itemsToDraft items) = true
  | [] => rfl
  | item :: rest => by
    rw [itemsToDraft, Draft.itemsWhole, isWhole_toDraft item, itemsWhole_itemsToDraft rest]
    rfl

theorem membersWhole_membersToDraft :
    (members : List (String × Tree)) → Draft.membersWhole (membersToDraft members) = true
  | [] => rfl
  | (_, value) :: rest => by
    rw [membersToDraft, Draft.membersWhole, isWhole_toDraft value, membersWhole_membersToDraft rest]
    rfl

end

variable {depth : Nat} {tree : Tree}

/-- What stands after an item ends it. -/
theorem severs_writeItems (items : List Tree) : Severs (writeItems items) := by
  cases items with
  | nil =>
    rw [writeItems]
    exact severs_cons (.inr (.inl rfl)) _
  | cons item later =>
    rw [writeItems]
    exact severs_cons (.inl rfl) _

theorem severs_writeMembers (members : List (String × Tree)) : Severs (writeMembers members) := by
  cases members with
  | nil =>
    rw [writeMembers]
    exact severs_cons (.inr (.inr rfl)) _
  | cons member later =>
    rw [writeMembers]
    exact severs_cons (.inl rfl) _

theorem cut_writeText (text : String) : Cut [.text (some text)] (writeText text) := by
  obtain ⟨tail, front, next⟩ := Lexeme.next?_writeText text []
  rw [List.append_nil] at front
  exact .single ⟨0x22, tail, front, rfl, next⟩

theorem cut_writeItems {items : List Tree}
    (each : ∀ item ∈ items, Cut item.toDraft.lexemes item.write) :
    Cut (Draft.itemLexemes (itemsToDraft items)) (writeItems items) := by
  induction items with
  | nil =>
    rw [itemsToDraft, Draft.itemLexemes, writeItems]
    exact .single ⟨_, _, rfl, rfl, rfl⟩
  | cons item later ih =>
    obtain ⟨first, others⟩ := List.forall_mem_cons.mp each
    rw [itemsToDraft, Draft.itemLexemes, writeItems]
    exact .mark ⟨_, _, rfl, rfl, rfl⟩ (first.append (ih others) (severs_writeItems later)) trivial

/-- A member is cut into its name, a colon and its value. -/
theorem cut_writeMember {value : Tree} (cut : Cut value.toDraft.lexemes value.write) (name : String)
    {members : List (String × Tree)}
    (rest : Cut (Draft.memberLexemes (membersToDraft members)) (writeMembers members)) :
    Cut ((Draft.text (some name)).lexemes ++ .colon ::
        (value.toDraft.lexemes ++ Draft.memberLexemes (membersToDraft members)))
      (writeText name ++ 0x3A :: (value.write ++ writeMembers members)) := by
  have colon : Severs (0x3A :: (value.write ++ writeMembers members)) := by
    rintro byte same
    cases same
    decide
  refine (cut_writeText name).append ?_ colon
  exact .mark ⟨_, _, rfl, rfl, rfl⟩ (cut.append rest (severs_writeMembers members)) trivial

theorem cut_writeMembers {members : List (String × Tree)}
    (each : ∀ member ∈ members, Cut member.2.toDraft.lexemes member.2.write) :
    Cut (Draft.memberLexemes (membersToDraft members)) (writeMembers members) := by
  induction members with
  | nil =>
    rw [membersToDraft, Draft.memberLexemes, writeMembers]
    exact .single ⟨_, _, rfl, rfl, rfl⟩
  | cons member later ih =>
    obtain ⟨name, value⟩ := member
    obtain ⟨first, others⟩ := List.forall_mem_cons.mp each
    rw [membersToDraft, Draft.memberLexemes, writeMembers]
    exact .mark ⟨_, _, rfl, rfl, rfl⟩ (cut_writeMember first name (ih others)) trivial

/-- **The text of a tree is cut into the lexemes of its draft.** -/
theorem cut_write : (depth : Nat) → (tree : Tree) → tree.Fits depth →
    Cut tree.toDraft.lexemes tree.write
  | _, .null, _ => .single ⟨_, _, rfl, rfl, rfl⟩
  | _, .flag true, _ => .single ⟨_, _, rfl, rfl, rfl⟩
  | _, .flag false, _ => .single ⟨_, _, rfl, rfl, rfl⟩
  | _, .number (.integer value), fits => by
    rw [Fits] at fits
    obtain ⟨first, tail, front, unblank, next⟩ :=
      Lexeme.next?_integerText fits.1 fits.2 severs_nil
    rw [List.append_nil] at front
    exact .single ⟨first, tail, front, unblank, next⟩
  | _, .number (.fraction _), fits => by
    rw [Fits] at fits
    exact fits.elim
  | _, .text value, _ => cut_writeText value
  | _ + 1, .list [], _ => .mark ⟨_, _, rfl, rfl, rfl⟩ (.single ⟨_, _, rfl, rfl, rfl⟩) trivial
  | depth + 1, .list (item :: later), fits => by
    rw [Fits] at fits
    obtain ⟨first, others⟩ := List.forall_mem_cons.mp fits
    have rest := cut_writeItems fun item member => cut_write depth item (others item member)
    rw [toDraft, itemsToDraft, Draft.lexemes, write]
    exact .mark ⟨_, _, rfl, rfl, rfl⟩
      ((cut_write depth item first).append rest (severs_writeItems later)) trivial
  | 0, .list _, fits => by
    rw [Fits] at fits
    exact fits.elim
  | _ + 1, .object [], _ => .mark ⟨_, _, rfl, rfl, rfl⟩ (.single ⟨_, _, rfl, rfl, rfl⟩) trivial
  | depth + 1, .object ((name, value) :: later), fits => by
    rw [Fits] at fits
    obtain ⟨first, others⟩ := List.forall_mem_cons.mp fits
    have rest := cut_writeMembers fun member found =>
      cut_write depth member.2 (others member found)
    rw [toDraft, membersToDraft, Draft.lexemes, write]
    exact .mark ⟨_, _, rfl, rfl, rfl⟩ (cut_writeMember (cut_write depth value first) name rest)
      trivial
  | 0, .object _, fits => by
    rw [Fits] at fits
    exact fits.elim

/-- **What is written of a tree is a text of its draft.** -/
theorem isText_write (fits : tree.Fits depth) : tree.toDraft.IsText tree.write :=
  ⟨isWhole_toDraft tree, cut_write depth tree fits⟩

end Tree

variable {depth : Nat} {tree : Tree}

/-- **The text of a tree is read as the draft of the tree**, and nothing follows it. -/
theorem Document.read_write (fits : tree.Fits depth) :
    Document.read tree.write = ⟨tree.toDraft, true⟩ :=
  Document.read_of_isText (Tree.isText_write fits)

/-! ### The tree of the draft -/

theorem Tree.exists_itemsOfDraft? {items : List Tree}
    (each : ∀ item ∈ items, ∃ found, Tree.ofDraft? item.toDraft depth = some found) :
    ∃ found, Tree.itemsOfDraft? (Tree.itemsToDraft items) depth = some found := by
  induction items with
  | nil => exact ⟨[], by rw [Tree.itemsToDraft, Tree.itemsOfDraft?]⟩
  | cons item later ih =>
    obtain ⟨⟨first, here⟩, others⟩ := List.forall_mem_cons.mp each
    obtain ⟨rest, found⟩ := ih others
    exact ⟨first :: rest, by rw [Tree.itemsToDraft, Tree.itemsOfDraft?, here, found]⟩

theorem Tree.exists_membersOfDraft? {members : List (String × Tree)}
    (each : ∀ member ∈ members, ∃ found, Tree.ofDraft? member.2.toDraft depth = some found)
    (before : List (String × Tree)) :
    ∃ found, Tree.membersOfDraft? (Tree.membersToDraft members) depth before = some found := by
  induction members generalizing before with
  | nil => exact ⟨before, by rw [Tree.membersToDraft, Tree.membersOfDraft?]⟩
  | cons member later ih =>
    obtain ⟨⟨first, here⟩, others⟩ := List.forall_mem_cons.mp each
    obtain ⟨rest, found⟩ := ih others (Tree.insertMember member.1 first before)
    refine ⟨rest, ?_⟩
    rw [Tree.membersToDraft, Tree.membersOfDraft?, here]
    exact found

/-- The draft of a tree has a tree, in which members stand in the order of their names. -/
theorem Tree.exists_ofDraft? : (depth : Nat) → (tree : Tree) → tree.Fits depth →
    ∃ found, Tree.ofDraft? tree.toDraft depth = some found
  | _, .null, _ => ⟨_, by rw [Tree.toDraft, Tree.ofDraft?]⟩
  | _, .flag _, _ => ⟨_, by rw [Tree.toDraft, Tree.ofDraft?]⟩
  | _, .number _, _ => ⟨_, by rw [Tree.toDraft, Tree.ofDraft?]⟩
  | _, .text _, _ => ⟨_, by rw [Tree.toDraft, Tree.ofDraft?]⟩
  | depth + 1, .list items, fits => by
    rw [Tree.Fits] at fits
    obtain ⟨found, each⟩ := Tree.exists_itemsOfDraft? fun item member =>
      Tree.exists_ofDraft? depth item (fits item member)
    refine ⟨.list found, ?_⟩
    rw [Tree.toDraft]
    unfold Tree.ofDraft?
    rw [each]
  | 0, .list _, fits => by
    rw [Tree.Fits] at fits
    exact fits.elim
  | depth + 1, .object members, fits => by
    rw [Tree.Fits] at fits
    obtain ⟨found, each⟩ := Tree.exists_membersOfDraft? (fun member here =>
      Tree.exists_ofDraft? depth member.2 (fits member here)) []
    refine ⟨.object found, ?_⟩
    rw [Tree.toDraft]
    unfold Tree.ofDraft?
    rw [each]
  | 0, .object _, fits => by
    rw [Tree.Fits] at fits
    exact fits.elim

/-- **The text of a tree has a tree**, when the tree is not nested too deeply. -/
theorem Document.exists_tree?_write (fits : tree.Fits Tree.greatestDepth) :
    ∃ found, (Document.read tree.write).tree? = some found := by
  obtain ⟨found, here⟩ := Tree.exists_ofDraft? Tree.greatestDepth tree fits
  refine ⟨found, ?_⟩
  rw [Document.read_write fits, Document.tree?]
  exact here

end Json

end SignedPurchase
