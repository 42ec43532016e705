import SignedPurchase.Proofs.Bytes
import SignedPurchase.Proofs.Der.Element

/-
**What strict reading reads.**

Keys are read strictly: an element must be written as it would be written again, so it is read from one
sequence of bytes only.

* `Der.lengthBytes` is how a length is written, `Der.wrap` how an element is;
* `Der.Strict.length?_eq_some_iff`: a length is read from how it is written, if it fits into thirty-two
  bits, and from nothing else;
* `Der.Strict.content?_eq_some_iff` and `only?_eq_some_iff`: so is an element;
* `Der.Strict.natural?_eq_some_iff_of_small`: a small number is a single byte.
-/

namespace SignedPurchase

namespace Der

/-! ### Writing -/

/-- How many bytes the length of a long content takes. -/
def lengthWidth (length : Nat) : Nat :=
  if length < 0x100 then 1
  else if length < 0x10000 then 2
  else if length < 0x1000000 then 3
  else 4

/-- A length below `2 ^ 32`: in one byte when it is small, else after the count of its bytes. -/
def lengthBytes (length : Nat) : Bytes :=
  if length < 0x80 then [UInt8.ofNat length]
  else UInt8.ofNat (0x80 + lengthWidth length) :: Bytes.ofNat (lengthWidth length) length

/-- An element: its first byte, its length and its content. -/
def wrap (tag : UInt8) (content : Bytes) : Bytes :=
  tag :: (lengthBytes content.length ++ content)

theorem lengthWidth_le (length : Nat) : 1 ≤ lengthWidth length ∧ lengthWidth length ≤ 4 := by
  unfold lengthWidth
  split
  · decide
  · split
    · decide
    · split <;> decide

theorem lt_of_lengthWidth {length : Nat} (short : length < 2 ^ 32) :
    length < 256 ^ lengthWidth length := by
  unfold lengthWidth
  split
  · assumption
  · split
    · assumption
    · split
      · assumption
      · exact short

/-- Whether a length needs as many bytes as it was written in. -/
def isNeeded (width length : Nat) : Bool :=
  if width = 0 then true else if width = 1 then 0x80 ≤ length else 1 <<< (8 * (width - 1)) ≤ length

/-- What is needed of a length that takes one to four bytes. -/
theorem isNeeded_cases {length width : Nat} (needed : isNeeded width length = true)
    (some : 1 ≤ width) (few : width ≤ 4) :
    (width = 1 ∧ 0x80 ≤ length) ∨ (width = 2 ∧ 0x100 ≤ length) ∨ (width = 3 ∧ 0x10000 ≤ length) ∨
      (width = 4 ∧ 0x1000000 ≤ length) := by
  obtain rfl | rfl | rfl | rfl : width = 1 ∨ width = 2 ∨ width = 3 ∨ width = 4 := by omega
  all_goals
    simp only [isNeeded, Nat.reduceSub, Nat.reduceMul, Nat.reduceShiftLeft, Nat.reduceEqDiff,
      if_true, if_false, decide_eq_true_eq] at needed
    omega

/-- The width is the one that is long enough, of which nothing is wasted. -/
theorem lengthWidth_eq {length width : Nat} (fits : length < 256 ^ width)
    (needed : isNeeded width length = true) (some : 1 ≤ width) (few : width ≤ 4) :
    lengthWidth length = width := by
  unfold lengthWidth
  rcases isNeeded_cases needed some few with ⟨rfl, _⟩ | ⟨rfl, _⟩ | ⟨rfl, _⟩ | ⟨rfl, _⟩
  all_goals
    simp only [Nat.reducePow] at fits
    split_ifs <;> omega

theorem isNeeded_lengthWidth {length : Nat} (long : 0x80 ≤ length) :
    isNeeded (lengthWidth length) length = true := by
  unfold lengthWidth isNeeded
  split_ifs <;>
    simp only [Nat.reduceSub, Nat.reduceMul, Nat.reduceShiftLeft, decide_eq_true_eq] <;> omega

/-! ### Reading -/

variable {bytes rest : Bytes} {length : Nat}

/-- A length is read from one byte, or from the bytes of which there are as many as the first one says. -/
theorem length?_eq_some_iff :
    length? bytes = some (length, rest) ↔
      (length < 0x80 ∧ bytes = UInt8.ofNat length :: rest) ∨
      ∃ digits : Bytes, 1 ≤ digits.length ∧ digits.length ≤ 126 ∧ length < 2 ^ 64 ∧
        length = Bytes.toNat digits ∧
        bytes = UInt8.ofNat (0x80 + digits.length) :: (digits ++ rest) := by
  cases bytes with
  | nil => simp [length?]
  | cons byte later =>
    have size := byte.toNat_lt
    rw [length?]
    refine ⟨?_, ?_⟩
    · intro read
      split at read
      · next small =>
        cases read
        exact .inl ⟨UInt8.lt_iff_toNat_lt.mp small, by rw [UInt8.ofNat_toNat]⟩
      · next large =>
        split at read
        · cases read
        · next definite =>
          split at read
          · next digits left cut =>
            dsimp only at read
            split at read
            · next fits =>
              cases read
              obtain ⟨count, rfl⟩ := Bytes.split?_eq_some_iff.mp cut
              simp only [Bool.or_eq_true, decide_eq_true_eq, ← UInt8.toNat_inj, not_or] at definite
              rw [UInt8.lt_iff_toNat_lt] at large
              simp only [UInt8.reduceToNat] at large definite
              refine .inr ⟨digits, by omega, by omega, fits, rfl, ?_⟩
              have whole : 0x80 + digits.length = byte.toNat := by omega
              rw [whole, UInt8.ofNat_toNat]
            · cases read
          · cases read
    · rintro (⟨small, whole⟩ | ⟨digits, filled, few, fits, rfl, whole⟩)
      · obtain ⟨rfl, rfl⟩ := List.cons.inj whole
        have same : (UInt8.ofNat length).toNat = length := by
          rw [UInt8.toNat_ofNat']
          omega
        rw [if_pos (UInt8.lt_iff_toNat_lt.mpr (by rw [same]; exact small)), same]
      · obtain ⟨rfl, rfl⟩ := List.cons.inj whole
        have same : (UInt8.ofNat (0x80 + digits.length)).toNat = 0x80 + digits.length := by
          rw [UInt8.toNat_ofNat']
          omega
        have definite : ¬ (decide (UInt8.ofNat (0x80 + digits.length) = 0x80) ||
            decide (UInt8.ofNat (0x80 + digits.length) = 0xFF)) = true := by
          simp only [Bool.or_eq_true, decide_eq_true_eq, ← UInt8.toNat_inj, same, UInt8.reduceToNat]
          omega
        have cut : Bytes.split? ((UInt8.ofNat (0x80 + digits.length)).toNat - 0x80) (digits ++ rest) =
            some (digits, rest) := by
          rw [same, Nat.add_sub_cancel_left]
          exact Bytes.split?_eq_some_iff.mpr ⟨rfl, rfl⟩
        have large : ¬ UInt8.ofNat (0x80 + digits.length) < 0x80 := by
          rw [UInt8.lt_iff_toNat_lt, same]
          exact Nat.not_lt.mpr (Nat.le_add_right _ _)
        rw [if_neg large, if_neg definite, cut]
        exact if_pos fits

namespace Strict

theorem length?_eq_some_iff_isNeeded :
    length? bytes = some (length, rest) ↔ Der.length? bytes = some (length, rest) ∧
      isNeeded (bytes.length - rest.length - 1) length = true ∧
      bytes.length - rest.length - 1 ≤ 4 := by
  rw [length?]
  cases Der.length? bytes with
  | none => simp
  | some found =>
    obtain ⟨number, left⟩ := found
    show (if (isNeeded (bytes.length - left.length - 1) number &&
        decide (bytes.length - left.length - 1 ≤ 4)) = true then some (number, left) else none) =
      some (length, rest) ↔ _
    rw [Option.ite_none_right_eq_some, Bool.and_eq_true, decide_eq_true_eq, and_comm]
    refine and_congr_right fun same => ?_
    cases same
    exact Iff.rfl

/-- **A length is read from how it is written**, and from nothing else. -/
theorem length?_eq_some_iff :
    length? bytes = some (length, rest) ↔ length < 2 ^ 32 ∧ bytes = lengthBytes length ++ rest := by
  rw [length?_eq_some_iff_isNeeded, Der.length?_eq_some_iff]
  refine ⟨?_, ?_⟩
  · rintro ⟨⟨small, rfl⟩ | ⟨digits, filled, _, _, rfl, rfl⟩, needed, width⟩
    · exact ⟨by omega, by rw [lengthBytes, if_pos small, List.singleton_append]⟩
    · have count : (UInt8.ofNat (0x80 + digits.length) :: (digits ++ rest)).length - rest.length - 1 =
          digits.length := by
        rw [List.length_cons, List.length_append]
        omega
      rw [count] at needed width
      have fits := Bytes.toNat_lt digits
      have exact := lengthWidth_eq fits needed filled width
      refine ⟨Nat.lt_of_lt_of_le fits (Nat.pow_le_pow_right (by decide) width), ?_⟩
      have long : ¬ Bytes.toNat digits < 0x80 := by
        have cases := isNeeded_cases needed filled width
        omega
      rw [lengthBytes, if_neg long, exact, Bytes.ofNat_toNat, List.cons_append]
  · rintro ⟨fits, rfl⟩
    unfold lengthBytes
    split
    · next small =>
      refine ⟨.inl ⟨small, rfl⟩, ?_⟩
      have none : ([UInt8.ofNat length] ++ rest).length - rest.length - 1 = 0 := by
        rw [List.length_append, List.length_singleton]
        omega
      rw [none]
      exact ⟨rfl, by decide⟩
    · next long =>
      have bounds := lengthWidth_le length
      have size := Bytes.length_ofNat (lengthWidth length) length
      have count : (UInt8.ofNat (0x80 + lengthWidth length) ::
          Bytes.ofNat (lengthWidth length) length ++ rest).length - rest.length - 1 =
            lengthWidth length := by
        rw [List.length_append, List.length_cons, size]
        omega
      rw [count]
      refine ⟨.inr ⟨Bytes.ofNat (lengthWidth length) length, ?_, ?_, by omega, ?_, ?_⟩,
        isNeeded_lengthWidth (by omega), bounds.2⟩
      · rw [size]
        exact bounds.1
      · rw [size]
        omega
      · exact (Bytes.toNat_ofNat (lt_of_lengthWidth fits)).symm
      · rw [size, List.cons_append]

variable {tag : UInt8} {content : Bytes}

/-- **An element is read from how it is written**, and from nothing else. -/
theorem content?_eq_some_iff :
    content? tag bytes = some (content, rest) ↔
      content.length < 2 ^ 32 ∧ bytes = wrap tag content ++ rest := by
  cases bytes with
  | nil => simp [content?, wrap]
  | cons byte later =>
    rw [content?, wrap, List.cons_append, List.cons.injEq, List.append_assoc]
    by_cases same : byte = tag
    · rw [if_pos same, and_iff_right same]
      refine ⟨?_, ?_⟩
      · intro read
        cases measured : length? later with
        | none =>
          rw [measured] at read
          cases read
        | some found =>
          obtain ⟨length, left⟩ := found
          rw [measured] at read
          obtain ⟨fits, rfl⟩ := length?_eq_some_iff.mp measured
          obtain ⟨rfl, rfl⟩ := Bytes.split?_eq_some_iff.mp read
          exact ⟨fits, rfl⟩
      · rintro ⟨fits, rfl⟩
        rw [length?_eq_some_iff.mpr ⟨fits, rfl⟩]
        exact Bytes.split?_eq_some_iff.mpr ⟨rfl, rfl⟩
    · rw [if_neg same]
      exact ⟨nofun, fun ⟨_, first, _⟩ => absurd first same⟩

/-- An element is read when it stands at the front. -/
theorem content?_wrap (short : content.length < 2 ^ 32) (rest : Bytes) :
    content? tag (wrap tag content ++ rest) = some (content, rest) :=
  content?_eq_some_iff.mpr ⟨short, rfl⟩

theorem only?_eq_some_iff :
    only? tag bytes = some content ↔ content.length < 2 ^ 32 ∧ bytes = wrap tag content := by
  have only : only? tag bytes = some content ↔ content? tag bytes = some (content, []) := by
    rw [only?]
    split
    · next found read => rw [read, Option.some.injEq, Option.some.injEq, Prod.mk.injEq, and_iff_left rfl]
    · next other => exact ⟨nofun, fun read => absurd read (other content)⟩
  rw [only, content?_eq_some_iff, List.append_nil]

/-- **A small number is a single byte.** -/
theorem natural?_eq_some_iff_of_small {number : Nat} (small : number < 0x80) :
    natural? bytes = some (number, rest) ↔ bytes = wrap 0x02 [UInt8.ofNat number] ++ rest := by
  have single : (UInt8.ofNat number).toNat = number := by
    rw [UInt8.toNat_ofNat']
    omega
  refine ⟨?_, ?_⟩
  · intro read
    rw [natural?] at read
    split at read
    · cases read
    · next content left found =>
      obtain ⟨short, rfl⟩ := content?_eq_some_iff.mp found
      split at read
      · cases read
      · next first later =>
        split at read
        · next shortest =>
          obtain ⟨rfl, rfl⟩ := Prod.mk.inj (Option.some.inj read)
          rw [Bool.and_eq_true, decide_eq_true_eq, UInt8.lt_iff_toNat_lt] at shortest
          cases later with
          | nil =>
            have value : Bytes.toNat [first] = first.toNat := by simp [Bytes.toNat]
            rw [value, UInt8.ofNat_toNat]
          | cons second more =>
            -- A second byte is there only if the first is needed, and then the number is not small.
            have large := Bytes.toNat_cons first (second :: more)
            have large' := Bytes.toNat_cons second more
            have positive : 1 ≤ 256 ^ more.length := Nat.one_le_pow _ _ (by decide)
            rw [List.length_cons, Nat.pow_succ] at large
            obtain ⟨_, shortest⟩ := shortest
            simp only [isShortest, Bool.not_eq_true', Bool.or_eq_false_iff, Bool.and_eq_false_iff,
              beq_eq_false_iff_ne, decide_eq_false_iff_not, UInt8.lt_iff_toNat_lt, ge_iff_le,
              UInt8.le_iff_toNat_le, ← UInt8.toNat_inj, UInt8.reduceToNat, ne_eq] at shortest
            rcases shortest.1 with some | long
            · have product : 1 * (1 * 256) ≤ first.toNat * (256 ^ more.length * 256) :=
                Nat.mul_le_mul (by omega) (Nat.mul_le_mul positive (Nat.le_refl _))
              omega
            · have product : 128 * 1 ≤ second.toNat * 256 ^ more.length :=
                Nat.mul_le_mul (by omega) positive
              omega
        · cases read
  · rintro rfl
    have short : [UInt8.ofNat number].length < 2 ^ 32 := by
      rw [List.length_singleton]
      decide
    rw [natural?, content?_wrap short]
    have shortest : (UInt8.ofNat number < 0x80 && isShortest [UInt8.ofNat number]) = true := by
      rw [isShortest, Bool.and_true, decide_eq_true_eq, UInt8.lt_iff_toNat_lt, single]
      exact small
    simp only [shortest, if_true]
    simp [Bytes.toNat, single]

end Strict

end Der

end SignedPurchase
