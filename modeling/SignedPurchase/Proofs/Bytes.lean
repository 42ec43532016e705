import Mathlib.Algebra.Ring.Nat
import Mathlib.Data.List.Induction
import Mathlib.Tactic.Ring
import SignedPurchase.Bytes

/-
**Numbers in bytes.**

Bytes in the order of signatures and digests spell a number in base 256, and nothing is lost when a number
that fits is written in so many bytes, nor when bytes are read and written again.

* `Bytes.toNat_cons` and `Bytes.toNat_lt`: what the first byte is worth, and how large a number can be;
* `Bytes.toNat_ofNat` and `Bytes.ofNat_toNat`: reading and writing undo each other;
* `Bytes.ofNat_inj`: numbers that are small enough are told apart by their bytes.
-/

namespace SignedPurchase

namespace Bytes

theorem length_ofNatOnto (width value : Nat) (tail : Bytes) :
    (ofNatOnto width value tail).length = width + tail.length := by
  induction width generalizing value tail with
  | zero => exact (Nat.zero_add _).symm
  | succ width ih =>
    rw [ofNatOnto, ih, List.length_cons]
    omega

theorem length_ofNat (width value : Nat) : (ofNat width value).length = width :=
  length_ofNatOnto width value []

theorem ofNatOnto_inj {width value other : Nat} {tail tail' : Bytes}
    (same : ofNatOnto width value tail = ofNatOnto width other tail') :
    value % 256 ^ width = other % 256 ^ width ∧ tail = tail' := by
  induction width generalizing value other tail tail' with
  | zero => exact ⟨by rw [Nat.pow_zero, Nat.mod_one, Nat.mod_one], same⟩
  | succ width ih =>
    obtain ⟨high, low⟩ := ih same
    obtain ⟨byte, rest⟩ := List.cons.inj low
    have units : value % 256 = other % 256 := by
      rw [← UInt8.toNat_inj, UInt8.toNat_ofNat', UInt8.toNat_ofNat'] at byte
      exact byte
    rw [Nat.pow_succ', Nat.mod_mul, Nat.mod_mul, units, high]
    exact ⟨rfl, rest⟩

/-- **Numbers that fit are told apart by their bytes.** -/
theorem ofNat_inj {width value other : Nat} (small : value < 256 ^ width)
    (small' : other < 256 ^ width) (same : ofNat width value = ofNat width other) :
    value = other := by
  have equal := (ofNatOnto_inj same).1
  rwa [Nat.mod_eq_of_lt small, Nat.mod_eq_of_lt small'] at equal

/-! ### Reading and writing -/

theorem ofNatOnto_eq_append (width value : Nat) (tail : Bytes) :
    ofNatOnto width value tail = ofNat width value ++ tail := by
  induction width generalizing value tail with
  | zero => rfl
  | succ width ih =>
    rw [ofNat, ofNatOnto, ofNatOnto, ih, ih _ [_], List.append_assoc, List.singleton_append]

/-- The last byte is the remainder. -/
theorem ofNat_succ (width value : Nat) :
    ofNat (width + 1) value = ofNat width (value / 256) ++ [UInt8.ofNat value] :=
  ofNatOnto_eq_append width (value / 256) [UInt8.ofNat value]

theorem toNat_concat (bytes : Bytes) (last : UInt8) :
    toNat (bytes ++ [last]) = toNat bytes * 256 + last.toNat := by
  rw [toNat, List.foldl_append]
  rfl

/-- What the first byte is worth. -/
theorem toNat_cons (first : UInt8) (bytes : Bytes) :
    toNat (first :: bytes) = first.toNat * 256 ^ bytes.length + toNat bytes := by
  induction bytes using List.reverseRecOn with
  | nil => simp [toNat]
  | append_singleton bytes last ih =>
    rw [← List.cons_append, toNat_concat, toNat_concat, ih, List.length_append, List.length_singleton,
      Nat.pow_succ]
    ring

/-- How large a number can be. -/
theorem toNat_lt (bytes : Bytes) : toNat bytes < 256 ^ bytes.length := by
  induction bytes with
  | nil => decide
  | cons first bytes ih =>
    have size := first.toNat_lt
    rw [toNat_cons, List.length_cons, Nat.pow_succ']
    calc first.toNat * 256 ^ bytes.length + toNat bytes
        < first.toNat * 256 ^ bytes.length + 256 ^ bytes.length := Nat.add_lt_add_left ih _
      _ = (first.toNat + 1) * 256 ^ bytes.length := by ring
      _ ≤ 256 * 256 ^ bytes.length := Nat.mul_le_mul_right _ size

/-- **A number that fits is read as it was written.** -/
theorem toNat_ofNat {width value : Nat} (small : value < 256 ^ width) :
    toNat (ofNat width value) = value := by
  induction width generalizing value with
  | zero =>
    rw [Nat.pow_zero, Nat.lt_one_iff] at small
    rw [small]
    rfl
  | succ width ih =>
    have front : value / 256 < 256 ^ width := by
      rw [Nat.div_lt_iff_lt_mul (by decide), ← Nat.pow_succ]
      exact small
    rw [ofNat_succ, toNat_concat, ih front, UInt8.toNat_ofNat']
    omega

/-- **Bytes are written as they were read.** -/
theorem ofNat_toNat (bytes : Bytes) : ofNat bytes.length (toNat bytes) = bytes := by
  induction bytes using List.reverseRecOn with
  | nil => rfl
  | append_singleton bytes last ih =>
    have size := last.toNat_lt
    have front : (toNat bytes * 256 + last.toNat) / 256 = toNat bytes := by omega
    have back : UInt8.ofNat (toNat bytes * 256 + last.toNat) = last := by
      rw [← UInt8.toNat_inj, UInt8.toNat_ofNat']
      omega
    rw [List.length_append, List.length_singleton, ofNat_succ, toNat_concat, front, back, ih]

end Bytes

end SignedPurchase
