import SignedPurchase.Text.Count

/-
**Which texts are counts.**

* `Count.IsDecimal` says that a text is a number in decimal digits, which may have a plus sign before
  them;
* `Count.read?_eq_some_iff`: a text is read as a number exactly when it is that number in decimal
  digits and the number fits into sixty-four bits.
-/

namespace SignedPurchase

namespace Count

/-- A text is a number in decimal digits, of which there is at least one. A plus sign may stand before
them. -/
def IsDecimal (text : String) (number : Nat) : Prop :=
  ∃ digits : List Char, digits ≠ [] ∧ (∀ char ∈ digits, char.isDigit = true) ∧
    (text.toList = digits ∨ text.toList = '+' :: digits) ∧ number = Nat.ofDigitChars 10 digits 0

/-- The digits are those that are digits elsewhere, with the same values. -/
theorem digit?_eq_some_iff {char : Char} {digit : Nat} :
    digit? char = some digit ↔ char.isDigit = true ∧ digit = char.toNat - 48 := by
  have same : ('0' ≤ char && char ≤ '9') = char.isDigit := rfl
  rw [digit?, same]
  split
  · next here => exact ⟨fun found => ⟨here, (Option.some.inj found).symm⟩, fun found => by rw [found.2]⟩
  · next other => exact ⟨nofun, fun found => absurd found.1 other⟩

theorem ofDigitChars_cons (char : Char) (rest : List Char) (value : Nat) :
    Nat.ofDigitChars 10 (char :: rest) value =
      Nat.ofDigitChars 10 rest (value * 10 + (char.toNat - 48)) := by
  rw [Nat.mul_comm]
  rfl

/-- More digits never make a number smaller. -/
theorem le_ofDigitChars (digits : List Char) (value : Nat) :
    value ≤ Nat.ofDigitChars 10 digits value := by
  induction digits generalizing value with
  | nil => exact Nat.le_refl value
  | cons char rest ih =>
    rw [ofDigitChars_cons]
    exact Nat.le_trans (by omega) (ih _)

/-- **Going on from a value**: all that is left are digits, and the number fits. Since numbers only
grow, it is enough that the whole one fits. -/
theorem onward?_eq_some_iff {digits : List Char} {value : Nat} {number : UInt64} :
    value < UInt64.size → (onward? value digits = some number ↔
      (∀ char ∈ digits, char.isDigit = true) ∧ Nat.ofDigitChars 10 digits value = number.toNat) := by
  induction digits generalizing value with
  | nil =>
    intro fits
    rw [onward?, Option.some.injEq, ← UInt64.toNat_inj, UInt64.toNat_ofNat_of_lt' fits]
    exact ⟨fun same => ⟨nofun, same⟩, fun same => same.2⟩
  | cons char rest ih =>
    intro fits
    rw [onward?, List.forall_mem_cons, ofDigitChars_cons]
    cases read : digit? char with
    | none =>
      refine ⟨nofun, ?_⟩
      rintro ⟨⟨here, _⟩, _⟩
      rw [digit?_eq_some_iff.mpr ⟨here, rfl⟩] at read
      cases read
    | some digit =>
      obtain ⟨here, rfl⟩ := digit?_eq_some_iff.mp read
      dsimp only
      split
      · next onward => rw [ih onward, and_iff_right here]
      · next beyond =>
        refine ⟨nofun, ?_⟩
        rintro ⟨_, whole⟩
        have small := number.toNat_lt_size
        have grows := le_ofDigitChars rest (value * 10 + (char.toNat - 48))
        omega

/-- **A text is read as the number that it is in decimal digits**, if that fits. -/
theorem read?_eq_some_iff {text : String} {number : UInt64} :
    read? text = some number ↔ IsDecimal text number.toNat := by
  have positive : 0 < UInt64.size := by decide
  rw [read?]
  refine ⟨?_, ?_⟩
  · intro found
    split at found
    · cases found
    · next digits some =>
      obtain ⟨each, whole⟩ := (onward?_eq_some_iff positive).mp found
      refine ⟨unsigned text.toList, some, each, ?_, whole.symm⟩
      unfold unsigned
      split
      · next signed => exact .inr signed
      · exact .inl rfl
  · rintro ⟨digits, some, each, written, whole⟩
    have bare : unsigned text.toList = digits := by
      rcases written with plain | signed
      · rw [plain, unsigned]
        rintro rest rfl
        exact absurd (each '+' List.mem_cons_self) (by decide)
      · rw [signed, unsigned]
    rw [bare]
    split
    · next none => exact absurd rfl some
    · exact (onward?_eq_some_iff positive).mpr ⟨each, whole.symm⟩

end Count

end SignedPurchase
