import Mathlib.Data.List.Forall2
import SignedPurchase.Environment

/-
**The names of environments.**

* `Environment.IsNamed` says that a text is a known name, each letter of it small or capital;
* `toLower_eq_iff`: a letter that is made small is what was a small letter or its capital;
* `Environment.ofName?_eq_some_iff`: these are the names that are understood.
-/

namespace SignedPurchase

/-! ### Small letters and capitals -/

theorem toNat_toLower (char : Char) : char.toLower.toNat =
    if 65 ≤ char.toNat ∧ char.toNat ≤ 90 then char.toNat + 32 else char.toNat := by
  have bounds : (char.val ≥ 'A'.val ∧ char.val ≤ 'Z'.val) ↔
      65 ≤ char.toNat ∧ char.toNat ≤ 90 := by
    rw [ge_iff_le, UInt32.le_iff_toNat_le, UInt32.le_iff_toNat_le]
    exact Iff.rfl
  unfold Char.toLower
  split
  · next capital =>
    have within := bounds.mp capital
    have moved : (char.val + 32).toNat = (char.toNat + 32) % 4294967296 := UInt32.toNat_add ..
    rw [if_pos within]
    exact moved.trans (by omega)
  · next other => rw [if_neg (mt bounds.mpr other)]

theorem toNat_toUpper (char : Char) : char.toUpper.toNat =
    if 97 ≤ char.toNat ∧ char.toNat ≤ 122 then char.toNat - 32 else char.toNat := by
  have bounds : (char.val ≥ 'a'.val ∧ char.val ≤ 'z'.val) ↔
      97 ≤ char.toNat ∧ char.toNat ≤ 122 := by
    rw [ge_iff_le, UInt32.le_iff_toNat_le, UInt32.le_iff_toNat_le]
    exact Iff.rfl
  unfold Char.toUpper
  split
  · next small =>
    have within := bounds.mp small
    -- The distance is subtracted by adding what is left to the whole range.
    have moved : (char.val + ('A'.val - 'a'.val)).toNat =
        (char.toNat + 4294967264) % 4294967296 := UInt32.toNat_add ..
    rw [if_pos within]
    exact moved.trans (by omega)
  · next other => rw [if_neg (mt bounds.mpr other)]

/-- **What becomes a letter when it is made small**: the letter itself, and its capital. -/
theorem toLower_eq_iff {given small : Char} (plain : ¬ (65 ≤ small.toNat ∧ small.toNat ≤ 90)) :
    given.toLower = small ↔ given = small ∨ given = small.toUpper := by
  simp only [← Char.toNat_inj, toNat_toLower, toNat_toUpper]
  split
  · split
    · omega
    · omega
  · split
    · omega
    · omega

/-- The same of a row of them. -/
theorem map_toLower_eq_iff {text name : List Char}
    (plain : ∀ small ∈ name, ¬ (65 ≤ small.toNat ∧ small.toNat ≤ 90)) :
    text.map Char.toLower = name ↔
      List.Forall₂ (fun given small => given = small ∨ given = small.toUpper) text name := by
  induction text generalizing name with
  | nil =>
    rw [List.map_nil, List.forall₂_nil_left_iff]
    exact eq_comm
  | cons given rest ih =>
    cases name with
    | nil => simp only [List.map_cons, reduceCtorEq, List.forall₂_nil_right_iff]
    | cons small others =>
      obtain ⟨here, later⟩ := List.forall_mem_cons.mp plain
      rw [List.map_cons, List.cons.injEq, List.forall₂_cons, toLower_eq_iff here, ih later]

/-! ### Names -/

namespace Environment

variable {text : String} {environment : Environment}

/-- The known names, in small letters. -/
def knownNames : List (String × Environment) :=
  [("production", .production), ("sandbox", .sandbox), ("xcode", .xcode),
    ("localtesting", .localTesting), ("local_testing", .localTesting)]

/-- A text is a known name of an environment, in which any letters may be capital. -/
def IsNamed (text : String) (environment : Environment) : Prop :=
  ∃ name, (name, environment) ∈ knownNames ∧
    List.Forall₂ (fun given small => given = small ∨ given = small.toUpper) text.toList name.toList

theorem ofSmallName?_eq_some_iff :
    ofSmallName? text = some environment ↔ (text, environment) ∈ knownNames := by
  unfold ofSmallName? knownNames
  simp only [List.mem_cons, Prod.mk.injEq, List.not_mem_nil, or_false, Bool.or_eq_true,
    decide_eq_true_eq]
  -- One case for each name that the text may be, and one for all others.
  grind

/-- No known name has a capital in it. -/
theorem plain_of_mem_knownNames {name : String} (known : (name, environment) ∈ knownNames) :
    ∀ small ∈ name.toList, ¬ (65 ≤ small.toNat ∧ small.toNat ≤ 90) := by
  simp only [knownNames, List.mem_cons, Prod.mk.injEq, List.not_mem_nil, or_false] at known
  rcases known with ⟨rfl, _⟩ | ⟨rfl, _⟩ | ⟨rfl, _⟩ | ⟨rfl, _⟩ | ⟨rfl, _⟩ <;> simp

/-- A text that is made small is a name when its letters are those of the name or their capitals. -/
theorem folded_eq_iff {name : String}
    (plain : ∀ small ∈ name.toList, ¬ (65 ≤ small.toNat ∧ small.toNat ≤ 90)) :
    folded text = name ↔
      List.Forall₂ (fun given small => given = small ∨ given = small.toUpper)
        text.toList name.toList := by
  rw [folded, ← String.toList_inj, String.toList_map]
  exact map_toLower_eq_iff plain

/-- **The names that are understood** are the known ones, in any case. -/
theorem ofName?_eq_some_iff : ofName? text = some environment ↔ IsNamed text environment := by
  rw [ofName?, ofSmallName?_eq_some_iff]
  refine ⟨?_, ?_⟩
  · intro known
    exact ⟨_, known, (folded_eq_iff (plain_of_mem_knownNames known)).mp rfl⟩
  · rintro ⟨name, known, same⟩
    rw [(folded_eq_iff (plain_of_mem_knownNames known)).mpr same]
    exact known

theorem ofName?_eq_none_iff :
    ofName? text = none ↔ ∀ environment, ¬ IsNamed text environment := by
  simp only [Option.eq_none_iff_forall_ne_some, ne_eq, ofName?_eq_some_iff]

/-- Every other name is complained about. -/
theorem parse_eq_elim : parse text = (ofName? text).elim
    (.error (.configuration ("unknown environment: " ++ folded text))) .ok := by
  rw [parse]
  cases ofName? text with
  | none => rfl
  | some environment => rfl

end Environment

end SignedPurchase
