import SignedPurchase.Failure
import Mathlib.Data.List.Forall2

/-
**Operations that went well.**

What it means for steps in a row, and for one step taken on every element of a list, to give a result,
or to fail.

* `Outcome.bind_eq_ok_iff` and `Outcome.map_eq_ok_iff`: one step after another;
* `Outcome.require_eq_ok_iff`: a condition that is asked for;
* `Outcome.mapM_eq_ok_iff`: every element gives its own result, in order;
* `Outcome.bind_eq_error_iff` and `Outcome.mapM_eq_error_iff`: what is reported is the failure of the
  first step that fails.
-/

namespace SignedPurchase

namespace Outcome

variable {ε α β : Type}

/-- Two steps go well when both do. -/
theorem bind_eq_ok_iff {first : Except ε α} {next : α → Except ε β} {value : β} :
    (first >>= next) = .ok value ↔ ∃ middle, first = .ok middle ∧ next middle = .ok value := by
  refine ⟨?_, ?_⟩
  · intro well
    cases first with
    | error failure => cases well
    | ok middle => exact ⟨middle, rfl, well⟩
  · rintro ⟨middle, rfl, well⟩
    exact well

/-- Only what follows a result of the first step matters to the second. -/
theorem bind_congr {first : Except ε α} {next other : α → Except ε β}
    (agree : ∀ value, first = .ok value → next value = other value) :
    (first >>= next) = (first >>= other) := by
  cases first with
  | error failure => rfl
  | ok value => exact agree value rfl

/-- A result that is passed through a function. -/
theorem map_eq_ok_iff {first : Except ε α} {change : α → β} {value : β} :
    first.map change = .ok value ↔ ∃ middle, first = .ok middle ∧ change middle = value := by
  cases first with
  | error failure => simp [Except.map]
  | ok middle => simp [Except.map]

/-- A value that must be there, with a failure when it is not. -/
theorem elim_eq_ok_iff {source : Option α} {failure : ε} {value : α} :
    source.elim (.error failure : Except ε α) .ok = .ok value ↔ source = some value := by
  cases source with
  | none => simp only [Option.elim_none, reduceCtorEq]
  | some found => simp only [Option.elim_some, Except.ok.injEq, Option.some.injEq]

/-- A condition that is asked for, with a failure when it does not hold. -/
theorem require_eq_ok_iff {condition : Prop} [Decidable condition] {failure : ε} :
    (if condition then .ok () else .error failure : Except ε Unit) = .ok () ↔ condition := by
  by_cases holds : condition
  · rw [if_pos holds]
    exact ⟨fun _ => holds, fun _ => rfl⟩
  · rw [if_neg holds]
    refine ⟨?_, ?_⟩
    · intro well
      cases well
    · intro right
      exact absurd right holds

/-- A step on every element of a list goes well when it does on each. -/
theorem mapM_eq_ok_iff {step : α → Except ε β} {elements : List α} {values : List β} :
    elements.mapM step = .ok values ↔
      List.Forall₂ (fun element value => step element = .ok value) elements values := by
  induction elements generalizing values with
  | nil =>
    rw [List.mapM_nil]
    refine ⟨?_, ?_⟩
    · intro well
      cases well
      exact .nil
    · intro related
      cases related
      rfl
  | cons element rest ih =>
    rw [List.mapM_cons, bind_eq_ok_iff]
    refine ⟨?_, ?_⟩
    · rintro ⟨value, here, later⟩
      obtain ⟨others, rest, result⟩ := bind_eq_ok_iff.mp later
      cases result
      exact .cons here (ih.mp rest)
    · intro related
      cases related with
      | cons here rest => exact ⟨_, here, bind_eq_ok_iff.mpr ⟨_, ih.mpr rest, rfl⟩⟩

/-- Two steps fail when the first does, or the second after it. -/
theorem bind_eq_error_iff {first : Except ε α} {next : α → Except ε β} {failure : ε} :
    (first >>= next) = .error failure ↔
      first = .error failure ∨ ∃ middle, first = .ok middle ∧ next middle = .error failure := by
  cases first with
  | error found =>
    show (Except.error found : Except ε β) = _ ↔ _
    simp only [Except.error.injEq, reduceCtorEq, false_and, exists_false, or_false]
  | ok middle =>
    show next middle = _ ↔ _
    simp only [reduceCtorEq, Except.ok.injEq, exists_eq_left', false_or]

theorem map_eq_error_iff {first : Except ε α} {change : α → β} {failure : ε} :
    first.map change = .error failure ↔ first = .error failure := by
  cases first with
  | error found => simp only [Except.map, Except.error.injEq]
  | ok middle => simp only [Except.map, reduceCtorEq]

/-- A step on every element of a list fails as it does on the first element on which it fails. -/
theorem mapM_eq_error_iff {step : α → Except ε β} {elements : List α} {failure : ε} :
    elements.mapM step = .error failure ↔
      ∃ front element back, elements = front ++ element :: back ∧
        (∀ earlier ∈ front, ∃ value, step earlier = .ok value) ∧ step element = .error failure := by
  induction elements with
  | nil =>
    rw [List.mapM_nil]
    refine ⟨nofun, ?_⟩
    rintro ⟨front, element, back, split, _⟩
    simp at split
  | cons first rest ih =>
    rw [List.mapM_cons, bind_eq_error_iff]
    refine ⟨?_, ?_⟩
    · rintro (here | ⟨value, here, later⟩)
      · exact ⟨[], first, rest, rfl, nofun, here⟩
      · rcases bind_eq_error_iff.mp later with failed | ⟨values, _, impossible⟩
        · obtain ⟨front, element, back, rfl, well, failed⟩ := ih.mp failed
          exact ⟨first :: front, element, back, rfl, List.forall_mem_cons.mpr ⟨⟨value, here⟩, well⟩,
            failed⟩
        · cases impossible
    · rintro ⟨front, element, back, split, well, failed⟩
      cases front with
      | nil =>
        obtain ⟨rfl, rfl⟩ := List.cons.inj split
        exact .inl failed
      | cons earlier front =>
        obtain ⟨rfl, rfl⟩ := List.cons.inj split
        obtain ⟨⟨value, here⟩, well⟩ := List.forall_mem_cons.mp well
        exact .inr ⟨value, here, bind_eq_error_iff.mpr
          (.inl (ih.mpr ⟨front, element, back, rfl, well, failed⟩))⟩

end Outcome

end SignedPurchase
