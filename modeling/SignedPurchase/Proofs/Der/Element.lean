import SignedPurchase.Certificate.Basic

/-
**Elements with more bytes after them.**

An element says how long it is, so what is read at the front does not depend on what follows.

* `Bytes.split?_eq_some_iff`: what is cut off in front, and what is left;
* `Der.element?_append`: an element is read the same whatever follows it, which is then left over too;
* `Certificate.ofBytes?_append`: so is a certificate, of which nothing is left over at all.
-/

namespace SignedPurchase

variable {bytes rest : Bytes}

/-! ### Cutting -/

/-- **What is cut off in front** is as long as was asked for, and nothing is lost. -/
theorem Bytes.split?_eq_some_iff {count : Nat} {front : Bytes} :
    split? count bytes = some (front, rest) ↔ front.length = count ∧ bytes = front ++ rest := by
  refine ⟨split?_eq_some, ?_⟩
  rintro ⟨rfl, rfl⟩
  induction front with
  | nil => rfl
  | cons byte front ih =>
    rw [List.length_cons, List.cons_append, split?, ih]

theorem Bytes.split?_append {count : Nat} {front : Bytes}
    (cut : split? count bytes = some (front, rest)) (extra : Bytes) :
    split? count (bytes ++ extra) = some (front, rest ++ extra) := by
  obtain ⟨size, rfl⟩ := split?_eq_some_iff.mp cut
  exact split?_eq_some_iff.mpr ⟨size, List.append_assoc front rest extra⟩

/-! ### Elements -/

namespace Der

theorem longNumber?_append {groups value number : Nat}
    (read : longNumber? groups value bytes = some (number, rest)) (extra : Bytes) :
    longNumber? groups value (bytes ++ extra) = some (number, rest ++ extra) := by
  induction groups generalizing value bytes with
  | zero => cases read
  | succ groups ih =>
    cases bytes with
    | nil => cases read
    | cons byte later =>
      rw [longNumber?] at read
      rw [List.cons_append, longNumber?]
      split at read
      · next last =>
        cases read
        rw [if_pos last]
      · next more => rw [if_neg more, ih read]

theorem tag?_append {tag : Tag} (read : tag? bytes = some (tag, rest)) (extra : Bytes) :
    tag? (bytes ++ extra) = some (tag, rest ++ extra) := by
  cases bytes with
  | nil => cases read
  | cons byte later =>
    rw [tag?] at read
    rw [List.cons_append, tag?]
    split at read
    · next long =>
      split at read
      · next number left found =>
        cases read
        rw [if_pos long, longNumber?_append found extra]
      · cases read
    · next short =>
      cases read
      rw [if_neg short]

theorem length?_append {length : Nat} (read : length? bytes = some (length, rest)) (extra : Bytes) :
    length? (bytes ++ extra) = some (length, rest ++ extra) := by
  cases bytes with
  | nil => cases read
  | cons byte later =>
    rw [length?] at read
    rw [List.cons_append, length?]
    split at read
    · next short =>
      cases read
      rw [if_pos short]
    · next long =>
      rw [if_neg long]
      split at read
      · cases read
      · next definite =>
        rw [if_neg definite]
        split at read
        · next digits left cut =>
          rw [Bytes.split?_append cut extra]
          dsimp only at read ⊢
          split at read
          · next fits =>
            cases read
            rw [if_pos fits]
          · cases read
        · cases read

/-- **An element is read the same whatever follows it.** -/
theorem element?_append {element : Element} (read : element? bytes = some (element, rest))
    (extra : Bytes) : element? (bytes ++ extra) = some (element, rest ++ extra) := by
  unfold element? header? at read ⊢
  cases tagged : tag? bytes with
  | none =>
    rw [tagged] at read
    cases read
  | some found =>
    obtain ⟨tag, afterTag⟩ := found
    rw [tagged] at read
    rw [tag?_append tagged extra]
    dsimp only at read ⊢
    cases measured : length? afterTag with
    | none =>
      rw [measured] at read
      cases read
    | some found =>
      obtain ⟨length, afterLength⟩ := found
      rw [measured] at read
      rw [length?_append measured extra]
      dsimp only at read ⊢
      cases cut : Bytes.split? length afterLength with
      | none =>
        rw [cut] at read
        cases read
      | some found =>
        obtain ⟨content, left⟩ := found
        rw [cut] at read
        rw [Bytes.split?_append cut extra]
        cases read
        rfl

theorem content?_append {number : Nat} {content : Bytes}
    (read : content? number bytes = some (content, rest)) (extra : Bytes) :
    content? number (bytes ++ extra) = some (content, rest ++ extra) := by
  unfold content? at read ⊢
  cases found : element? bytes with
  | none =>
    rw [found] at read
    cases read
  | some pair =>
    obtain ⟨element, left⟩ := pair
    rw [found] at read
    rw [element?_append found extra]
    dsimp only at read ⊢
    split at read
    · next tagged =>
      cases read
      rw [if_pos tagged]
    · cases read

end Der

/-! ### Certificates -/

/-- **A certificate is read the same whatever follows it.** -/
theorem Certificate.ofBytes?_append {certificate : Certificate}
    (read : ofBytes? bytes = some certificate) (extra : Bytes) :
    ofBytes? (bytes ++ extra) = some certificate := by
  unfold ofBytes? at read ⊢
  cases found : Der.content? Der.sequence bytes with
  | none =>
    rw [found] at read
    cases read
  | some pair =>
    obtain ⟨content, left⟩ := pair
    rw [found] at read
    rw [Der.content?_append found extra]
    exact read

end SignedPurchase
