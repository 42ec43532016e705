import Mathlib.Data.List.Basic
import SignedPurchase.Text.Utf8

/-
**Texts in bytes, character by character.**

* `Utf8.encode_ofList`: the bytes of a text are those of its characters, one after another;
* `Utf8.encode_inj`: texts are told apart by their bytes;
* `Utf8.encode_front`: a text that is cut off at an offset has that many of the bytes;
* `Utf8.utf8EncodeChar_of_lt` and `Utf8.le_of_mem_utf8EncodeChar`: ASCII is kept apart from all else.
-/

namespace SignedPurchase

namespace Utf8

/-- The bytes of a text come character by character. -/
theorem encode_ofList (chars : List Char) :
    encode (String.ofList chars) = chars.flatMap String.utf8EncodeChar := by
  have bytes : (String.ofList chars).toByteArray = chars.utf8Encode := rfl
  rw [encode, bytes, List.utf8Encode.eq_1, List.data_toByteArray]

theorem encode_inj {text other : String} (same : encode text = encode other) :
    text = other := by
  have read := congrArg decode? same
  rw [decode?_encode, decode?_encode] at read
  exact Option.some.inj read

theorem length_encode (text : String) : (encode text).length = text.utf8ByteSize :=
  Array.length_toList

/-- What is cut off at an offset is that many of the bytes of a text. -/
theorem encode_front {text : String} {offset : Nat}
    (between : String.Pos.Raw.IsValid text ⟨offset⟩) :
    encode (front text offset between) = (encode text).take offset := by
  obtain ⟨before, after, whole, place⟩ := String.Pos.Raw.isValid_iff_exists_append.mp between
  have size : before.utf8ByteSize = offset := (congrArg String.Pos.Raw.byteIdx place).symm
  rw [front_of_append whole size, whole, encode_append,
    List.take_left' ((length_encode before).trans size)]

variable {char : Char}

theorem utf8EncodeChar_of_lt (small : char.toNat < 128) :
    String.utf8EncodeChar char = [UInt8.ofNat char.toNat] := by
  rw [String.utf8EncodeChar.eq_1]
  exact if_pos (Nat.le_of_lt_succ small)

/-- The bytes of a character beyond ASCII are beyond ASCII. -/
theorem le_of_mem_utf8EncodeChar (large : 128 ≤ char.toNat) :
    ∀ byte ∈ String.utf8EncodeChar char, 128 ≤ byte.toNat := by
  have beyond : ¬ char.val.toNat ≤ 0x7f := Nat.not_le.mpr large
  rw [String.utf8EncodeChar.eq_1]
  simp only [beyond, if_false]
  split
  · simp only [List.forall_mem_cons, UInt8.toNat_ofNat']
    refine ⟨by omega, by omega, nofun⟩
  · split
    · simp only [List.forall_mem_cons, UInt8.toNat_ofNat']
      refine ⟨by omega, by omega, by omega, nofun⟩
    · simp only [List.forall_mem_cons, UInt8.toNat_ofNat']
      refine ⟨by omega, by omega, by omega, by omega, nofun⟩

end Utf8

end SignedPurchase
