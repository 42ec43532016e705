import SignedPurchase.Json.Shape

/-
**The kinds of integers.**

Signed and unsigned integers of thirty-two and sixty-four bits, and values that are written as codes
of thirty-two bits.

* `IntegerKind.signed32`, `IntegerKind.signed64`, `IntegerKind.unsigned32`, `IntegerKind.unsigned64`;
* `Shape.code` reads and writes a value by its code.
-/

namespace SignedPurchase

namespace Json

namespace IntegerKind

/-- Signed integers of thirty-two bits. -/
def signed32 : IntegerKind Int32 where
  name := "i32"
  ofInt? number :=
    if Int32.minValue.toInt ≤ number ∧ number ≤ Int32.maxValue.toInt then
      some (Int32.ofInt number)
    else none
  toInt := Int32.toInt
  ofInt?_toInt value := by
    rw [if_pos ⟨Int32.minValue_le_toInt value, Int32.toInt_le value⟩, Int32.ofInt_toInt]

/-- Signed integers of sixty-four bits. -/
def signed64 : IntegerKind Int64 where
  name := "i64"
  ofInt? number :=
    if Int64.minValue.toInt ≤ number ∧ number ≤ Int64.maxValue.toInt then
      some (Int64.ofInt number)
    else none
  toInt := Int64.toInt
  ofInt?_toInt value := by
    rw [if_pos ⟨Int64.minValue_le_toInt value, Int64.toInt_le value⟩, Int64.ofInt_toInt]

/-- Unsigned integers of thirty-two bits. -/
def unsigned32 : IntegerKind UInt32 where
  name := "u32"
  ofInt? number :=
    if 0 ≤ number ∧ number.toNat < UInt32.size then some (UInt32.ofNat number.toNat) else none
  toInt value := value.toNat
  ofInt?_toInt value := by
    rw [Int.toNat_natCast, if_pos ⟨Int.natCast_nonneg _, UInt32.toNat_lt_size value⟩,
      UInt32.ofNat_toNat]

/-- Unsigned integers of sixty-four bits. -/
def unsigned64 : IntegerKind UInt64 where
  name := "u64"
  ofInt? number :=
    if 0 ≤ number ∧ number.toNat < UInt64.size then some (UInt64.ofNat number.toNat) else none
  toInt value := value.toNat
  ofInt?_toInt value := by
    rw [Int.toNat_natCast, if_pos ⟨Int.natCast_nonneg _, UInt64.toNat_lt_size value⟩,
      UInt64.ofNat_toNat]

end IntegerKind

/-- A value that is written as its code. Every code stands for a value. -/
def Shape.code {α : Type} (view : View Int32 α) : Shape α :=
  .via view (.integer .signed32)

end Json

end SignedPurchase
