import SignedPurchase.Proofs.Json.Restoring

/-
**Members that are read and never written.**

A hidden member is read like any other and left out of what is written. So what is written says nothing
of it, and what is read from that has the default in its place.

* `Members.cleared` puts the defaults of hidden members in their place;
* `Members.write_cleared`: what is written of a record is written of the cleared one;
* `Shape.record_restores_cleared`: the cleared record is read back from that;
* `Shape.revealed` hides nothing and reads the same, so its texts are read with all of their members.
-/

namespace SignedPurchase

namespace Json

variable {α σ ρ : Type} {depth : Nat} {route : Route}

/-! ### Records without what is hidden -/

/-- A record in which every hidden member has its default. -/
def Members.cleared : {σ ρ : Type} → Members σ ρ → ρ → ρ
  | _, _, .nil, _ => ()
  | _, _, .cons _ _ _ default hidden rest, (value, values) =>
    (if hidden then default.getD value else value, rest.cleared values)

/-- Whether every hidden member has a default. -/
def Members.hidesDefaults : {σ ρ : Type} → Members σ ρ → Bool
  | _, _, .nil => true
  | _, _, .cons _ _ _ default hidden rest => (!hidden || default.isSome) && rest.hidesDefaults

/-- **What is written does not depend on what is hidden.** -/
theorem Members.write_cleared : {σ ρ : Type} → (members : Members σ ρ) → (values : ρ) →
    members.write (members.cleared values) = members.write values
  | _, _, .nil, _ => rfl
  | _, _, .cons _ _ _ _ hidden rest, (value, values) => by
    rw [Members.cleared, Members.write, Members.write, rest.write_cleared]
    cases hidden with
    | true => simp only [if_true]
    | false => simp only [Bool.false_eq_true, if_false]

/-- What is not there when a record is read has its default. -/
theorem Members.complete_shown : {σ ρ : Type} → (members : Members σ ρ) →
    members.hidesDefaults = true → (values : ρ) →
    members.complete (members.shown values) = .ok (members.cleared values)
  | _, _, .nil, _, _ => rfl
  | _, _, .cons _ _ _ default hidden rest, hides, (value, values) => by
    rw [Members.hidesDefaults, Bool.and_eq_true] at hides
    obtain ⟨given, hides⟩ := hides
    rw [Members.shown, Members.cleared, Members.complete_cons_eq_ok_iff]
    refine ⟨?_, rest.complete_shown hides values⟩
    cases hidden with
    | true =>
      obtain ⟨other, rfl⟩ := Option.isSome_iff_exists.mp given
      rfl
    | false => rfl

/-- **A record is read back cleared.** -/
theorem Shape.record_restores_cleared {title : String} {members : Members σ ρ}
    (apart : members.isApart = true) (hides : members.hidesDefaults = true) {values : ρ}
    (restored : members.Restores values) :
    (Shape.record title members).Restores (members.cleared values) := by
  intro route
  refine Shape.read_record_eq_ok_iff.mpr (.inl ⟨_, members.shown values, ?_,
    members.gathers_shown apart values restored, members.complete_shown hides values⟩)
  rw [Shape.write, Tree.toDraft, Tree.membersToDraft_eq, members.write_cleared]

/-! ### Records with all of it -/

/-- The members of a record, of which none is hidden. -/
def Members.revealed : {σ ρ : Type} → Members σ ρ → Members σ ρ
  | _, _, .nil => .nil
  | _, _, .cons name aliases shape default _ rest =>
    .cons name aliases shape default false rest.revealed

/-- The shape with nothing hidden in its record. -/
def Shape.revealed : {α : Type} → Shape α → Shape α
  | _, .record title members => .record title members.revealed
  | _, .via view shape => .via view shape.revealed
  | _, shape => shape

theorem Members.names_revealed {σ ρ : Type} (members : Members σ ρ) :
    members.revealed.names = members.names := by
  cases members with
  | nil => rfl
  | cons _ _ _ _ _ rest => rw [Members.revealed, Members.names, Members.names, rest.names_revealed]

theorem Members.isApart_revealed {σ ρ : Type} (members : Members σ ρ) :
    members.revealed.isApart = members.isApart := by
  cases members with
  | nil => rfl
  | cons _ _ _ _ _ rest =>
    rw [Members.revealed, Members.isApart, Members.isApart, rest.names_revealed,
      rest.isApart_revealed]

/-- A record with a type of its own is faithful when its members are, hidden or not. -/
theorem Shape.record_revealed_faithful {view : View ρ α} {title : String} {members : Members σ ρ}
    (apart : members.isApart = true) (faithful : members.revealed.Faithful depth) :
    (Shape.via view (.record title members)).revealed.Faithful (depth + 1) :=
  ⟨members.isApart_revealed.trans apart, faithful⟩

theorem Members.restores_revealed_iff : {σ ρ : Type} → (members : Members σ ρ) → {values : ρ} →
    (members.revealed.Restores values ↔ members.Restores values)
  | _, _, .nil, _ => Iff.rfl
  | _, _, .cons _ _ _ _ _ rest, (_, _) => and_congr_right fun _ => rest.restores_revealed_iff

theorem Members.gathers_revealed_iff : {σ ρ : Type} → (members : Members σ ρ) →
    {named : List (String × Draft)} → {slots : σ} →
    (members.revealed.Gathers route named slots ↔ members.Gathers route named slots)
  | _, _, .nil, _, _ => Iff.rfl
  | _, _, .cons _ _ _ _ _ rest, _, (_, _) => and_congr_right fun _ => rest.gathers_revealed_iff

theorem Members.complete_revealed : {σ ρ : Type} → (members : Members σ ρ) → (slots : σ) →
    members.revealed.complete slots = members.complete slots
  | _, _, .nil, _ => rfl
  | _, _, .cons _ _ _ _ _ rest, (_, slots) => by
    rw [Members.revealed, Members.complete, Members.complete, rest.complete_revealed]

theorem Members.fills_revealed_iff : {σ ρ : Type} → (members : Members σ ρ) →
    {items : List Draft} → {values : ρ} →
    (members.revealed.Fills route items values ↔ members.Fills route items values)
  | _, _, .nil, _, _ => Iff.rfl
  | _, _, .cons _ _ _ _ _ rest, [], (_, _) => and_congr_right fun _ => rest.fills_revealed_iff
  | _, _, .cons _ _ _ _ _ rest, _ :: _, (_, _) =>
    and_congr_right fun _ => rest.fills_revealed_iff

/-- **Hiding makes no difference to reading.** -/
theorem Shape.read_revealed_eq_ok_iff : {α : Type} → (shape : Shape α) → {draft : Draft} →
    {value : α} → (shape.revealed.read route draft = .ok value ↔ shape.read route draft = .ok value)
  | _, .record _ members, _, _ => by
    rw [Shape.revealed, Shape.read_record_eq_ok_iff, Shape.read_record_eq_ok_iff]
    simp only [members.gathers_revealed_iff, members.complete_revealed, members.fills_revealed_iff]
  | _, .via _ shape, _, _ => by
    rw [Shape.revealed, Shape.read_via_eq_ok_iff, Shape.read_via_eq_ok_iff]
    simp only [shape.read_revealed_eq_ok_iff]
  | _, .text, _, _ | _, .flag, _, _ | _, .integer _, _, _ | _, .choice _, _, _
  | _, .optional _, _, _ | _, .orNull _ _, _, _ | _, .list _, _, _ => Iff.rfl

theorem Shape.decode_of_revealed {shape : Shape α} {bytes : Bytes} {value : α}
    (decoded : shape.revealed.decode bytes = .ok value) : shape.decode bytes = .ok value := by
  rw [Shape.decode_eq_ok_iff] at decoded ⊢
  exact decoded.imp_left shape.read_revealed_eq_ok_iff.mp

/-- The members that are written are among those that are written when nothing is hidden. -/
theorem Members.write_subset_revealed : {σ ρ : Type} → (members : Members σ ρ) → (values : ρ) →
    members.write values ⊆ members.revealed.write values
  | _, _, .nil, _ => List.Subset.refl _
  | _, _, .cons _ _ _ _ hidden rest, (_, values) => by
    rw [Members.revealed, Members.write, Members.write, if_neg Bool.false_ne_true]
    have later := rest.write_subset_revealed values
    cases hidden with
    | true =>
      rw [if_pos rfl]
      exact List.subset_cons_of_subset _ later
    | false =>
      rw [if_neg Bool.false_ne_true]
      exact List.cons_subset_cons _ later

/-- So the tree of a value keeps within bounds when it does with nothing hidden. -/
theorem Shape.fits_write_of_revealed : {α : Type} → (shape : Shape α) → {depth : Nat} →
    shape.revealed.Faithful depth → (value : α) → (shape.write value).Fits depth
  | _, .record _ members, 0, faithful, _ => by
    rw [Shape.revealed, Shape.Faithful] at faithful
    exact faithful.elim
  | _, .record _ members, depth + 1, faithful, values => by
    rw [Shape.revealed, Shape.Faithful] at faithful
    rw [Shape.write, Tree.Fits]
    exact fun member found => members.revealed.fits_write faithful.2 values member
      (members.write_subset_revealed values found)
  | _, .via view shape, _, faithful, value => by
    rw [Shape.revealed, Shape.Faithful] at faithful
    rw [Shape.write]
    exact shape.fits_write_of_revealed faithful (view.back value)
  | _, .text, _, faithful, value | _, .flag, _, faithful, value
  | _, .integer _, _, faithful, value | _, .choice _, _, faithful, value
  | _, .optional _, _, faithful, value | _, .orNull _ _, _, faithful, value
  | _, .list _, _, faithful, value => Shape.fits_write _ faithful value

end Json

end SignedPurchase
