import SignedPurchase.Failure
import Mathlib.Data.List.Basic
import Mathlib.Tactic.Tauto

/-
**Operations that fail as the first of several stages does.**

When the stages of an operation fail is said of each of them alone, so that several may fail at once.
The operation reports the failure of the first.

* `FirstFails` is the failure of the first of some stages that fails;
* `Reports` says that an operation fails exactly in this way, and `Reports.isOk_iff` that it goes well
  when no stage fails;
* `Reports.bind` puts two operations together.
-/

namespace SignedPurchase

variable {σ α β : Type} {fails : σ → Failure → Prop} {stage : σ} {stages front back : List σ}
  {failure : Failure}

/-- The first of some stages that fails has this failure. -/
def FirstFails (fails : σ → Failure → Prop) : List σ → Failure → Prop
  | [], _ => False
  | stage :: rest, failure =>
    fails stage failure ∨ (∀ other, ¬ fails stage other) ∧ FirstFails fails rest failure

/-- No stage before the first fails. -/
theorem firstFails_iff [DecidableEq σ] :
    FirstFails fails stages failure ↔
      ∃ stage ∈ stages, fails stage failure ∧ ∀ earlier ∈ stages,
        stages.idxOf earlier < stages.idxOf stage → ∀ other, ¬ fails earlier other := by
  induction stages with
  | nil => simp [FirstFails]
  | cons first rest ih =>
    rw [FirstFails, ih]
    refine ⟨?_, ?_⟩
    -- The first stage may stand again among the others; it does not fail there either.
    · rintro (here | ⟨passed, stage, member, here, none⟩)
      · refine ⟨first, List.mem_cons_self, here, fun earlier _ before => ?_⟩
        rw [List.idxOf_cons_self] at before
        exact absurd before (Nat.not_lt_zero _)
      · refine ⟨stage, List.mem_cons_of_mem _ member, here, fun earlier found before => ?_⟩
        by_cases same : earlier = first
        · exact same ▸ passed
        · have other : stage ≠ first := fun equal => passed failure (equal ▸ here)
          rw [List.idxOf_cons_ne _ (Ne.symm same), List.idxOf_cons_ne _ (Ne.symm other)] at before
          exact none earlier (List.mem_of_ne_of_mem same found) (Nat.lt_of_succ_lt_succ before)
    · rintro ⟨stage, member, here, none⟩
      by_cases same : stage = first
      · exact .inl (same ▸ here)
      · have passed : ∀ other, ¬ fails first other := by
          refine none first List.mem_cons_self ?_
          rw [List.idxOf_cons_self, List.idxOf_cons_ne _ (Ne.symm same)]
          exact Nat.succ_pos _
        refine .inr ⟨passed, stage, List.mem_of_ne_of_mem same member, here, ?_⟩
        intro earlier found before
        by_cases equal : earlier = first
        · exact equal ▸ passed
        · refine none earlier (List.mem_cons_of_mem _ found) ?_
          rw [List.idxOf_cons_ne _ (Ne.symm equal), List.idxOf_cons_ne _ (Ne.symm same)]
          exact Nat.succ_lt_succ before

theorem FirstFails.exists_mem (first : FirstFails fails stages failure) :
    ∃ stage ∈ stages, fails stage failure := by
  classical
  obtain ⟨stage, member, failing, _⟩ := firstFails_iff.mp first
  exact ⟨stage, member, failing⟩

theorem exists_firstFails (member : stage ∈ stages) (failing : fails stage failure) :
    ∃ other, FirstFails fails stages other := by
  induction stages with
  | nil => cases member
  | cons first rest ih =>
    by_cases here : ∃ other, fails first other
    · obtain ⟨other, here⟩ := here
      exact ⟨other, .inl here⟩
    · rcases List.mem_cons.mp member with rfl | later
      · exact absurd ⟨failure, failing⟩ here
      · obtain ⟨other, found⟩ := ih later
        exact ⟨other, .inr ⟨not_exists.mp here, found⟩⟩

theorem firstFails_append :
    FirstFails fails (front ++ back) failure ↔
      FirstFails fails front failure ∨
        (∀ stage ∈ front, ∀ other, ¬ fails stage other) ∧ FirstFails fails back failure := by
  induction front with
  | nil => simp [FirstFails]
  | cons first rest ih =>
    rw [List.cons_append, FirstFails, FirstFails, ih, List.forall_mem_cons]
    tauto

/-- An operation fails exactly as the first of some stages does. -/
def Reports (fails : σ → Failure → Prop) (stages : List σ) (outcome : Outcome α) : Prop :=
  ∀ failure, outcome = .error failure ↔ FirstFails fails stages failure

theorem reports_single {outcome : Outcome α}
    (alone : ∀ failure, outcome = .error failure ↔ fails stage failure) :
    Reports fails [stage] outcome := by
  intro failure
  rw [alone, FirstFails, FirstFails, and_false, or_false]

/-- A value that must be there. -/
theorem reports_elim {source : Option α} {found : Failure}
    (alone : ∀ failure, fails stage failure ↔ source = none ∧ failure = found) :
    Reports fails [stage] (source.elim (.error found) .ok) := by
  refine reports_single fun failure => ?_
  rw [alone]
  cases source with
  | none => simp only [Option.elim_none, Except.error.injEq, true_and, eq_comm]
  | some value => simp only [Option.elim_some, reduceCtorEq, false_and]

/-- A result whose fault is worded. -/
theorem reports_mapError {ε : Type} {source : Except ε α} {word : ε → Failure}
    (alone : ∀ failure, fails stage failure ↔
      ∃ fault, source = .error fault ∧ failure = word fault) :
    Reports fails [stage] (source.mapError word) := by
  refine reports_single fun failure => ?_
  rw [alone]
  cases source with
  | error fault => simp only [Except.mapError, Except.error.injEq, exists_eq_left', eq_comm]
  | ok value => simp only [Except.mapError, reduceCtorEq, false_and, exists_false]

/-- A condition that must hold. -/
theorem reports_require {condition : Prop} [Decidable condition] {found : Failure}
    (alone : ∀ failure, fails stage failure ↔ ¬ condition ∧ failure = found) :
    Reports fails [stage] (if condition then .ok () else .error found) := by
  refine reports_single fun failure => ?_
  rw [alone]
  by_cases holds : condition
  · simp only [holds, if_true, reduceCtorEq, not_true, false_and]
  · simp only [holds, if_false, Except.error.injEq, not_false_iff, true_and, eq_comm]

/-- No stage fails before a value. -/
theorem reports_ok {value : α} (none : ∀ stage ∈ stages, ∀ failure, ¬ fails stage failure) :
    Reports fails stages (.ok value) := by
  refine fun failure => ⟨nofun, fun first => ?_⟩
  obtain ⟨stage, member, failing⟩ := first.exists_mem
  exact absurd failing (none stage member failure)

theorem Reports.passed {value : α} (reports : Reports fails stages (.ok value)) :
    ∀ stage ∈ stages, ∀ failure, ¬ fails stage failure := by
  intro stage member failure failing
  obtain ⟨other, first⟩ := exists_firstFails member failing
  cases (reports other).mpr first

/-- An operation goes well exactly when no stage fails. -/
theorem Reports.isOk_iff {outcome : Outcome α} (reports : Reports fails stages outcome) :
    (∃ value, outcome = .ok value) ↔ ∀ stage ∈ stages, ∀ failure, ¬ fails stage failure := by
  cases outcome with
  | ok value => exact ⟨fun _ => reports.passed, fun _ => ⟨value, rfl⟩⟩
  | error failure =>
    refine ⟨nofun, fun none => ?_⟩
    obtain ⟨stage, member, failing⟩ := ((reports failure).mp rfl).exists_mem
    exact absurd failing (none stage member failure)

/-- What fails when its first part does, and goes on as the rest otherwise, fails as the first of all
stages does. -/
theorem Reports.andThen {first : Outcome α} {whole : Outcome β} (here : Reports fails front first)
    (stops : ∀ found, first = .error found → whole = .error found)
    (later : ∀ value, first = .ok value → Reports fails back whole) :
    Reports fails (front ++ back) whole := by
  intro failure
  rw [firstFails_append, ← here failure]
  cases first with
  | error found =>
    obtain ⟨stage, member, failing⟩ := ((here found).mp rfl).exists_mem
    rw [stops found rfl, Except.error.injEq, Except.error.injEq]
    refine ⟨.inl, ?_⟩
    rintro (same | ⟨none, _⟩)
    · exact same
    · exact absurd failing (none stage member found)
  | ok value =>
    refine ((later value rfl) failure).trans ?_
    refine ⟨fun first => .inr ⟨here.passed, first⟩, ?_⟩
    rintro (other | ⟨_, first⟩)
    · cases other
    · exact first

/-- **One operation after another** fails as the first of all stages does. -/
theorem Reports.bind {first : Outcome α} {next : α → Outcome β} (here : Reports fails front first)
    (later : ∀ value, first = .ok value → Reports fails back (next value)) :
    Reports fails (front ++ back) (first >>= next) := by
  refine here.andThen ?_ ?_
  · rintro found rfl
    rfl
  · rintro value rfl
    exact later value rfl

/-- A result that is passed through a function. -/
theorem Reports.map {first : Outcome α} (here : Reports fails stages first) (change : α → β) :
    Reports fails stages (first.map change) := by
  intro failure
  rw [← here failure]
  cases first with
  | error found => simp only [Except.map, Except.error.injEq]
  | ok value => simp only [Except.map, reduceCtorEq]

end SignedPurchase
