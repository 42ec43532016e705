import SignedPurchase.Proofs.Text.Lossy
import SignedPurchase.Proofs.Url.Percent

/-
**Fields that are read again.**

Who receives a query cuts it at its ampersands, and each piece at its first equals sign. In the name and
in the value a plus sign stands for a space, and then escapes are opened. What a field is written as
holds neither of the two marks outside their places, and a plus sign only for a space.

* `Form.fields` reads the fields of a query;
* `Form.opened_written`: the name or the value of a field is opened to what it was;
* `Form.apart_of_mem_written`: neither holds a mark at which a query is cut;
* `Form.fields_field`: one field is read from a query that is one field.
-/

namespace SignedPurchase

namespace Form

/-- What a byte stands for in a field: a plus sign stands for a space. -/
def spaced (byte : UInt8) : UInt8 :=
  if byte = 0x2B then 0x20 else byte

/-- The text of the name or of the value of a field. -/
def part (bytes : Bytes) : String :=
  Utf8.decodeLossy (Escape.opened (bytes.map spaced))

/-- The name and the value of a piece, which is cut at its first equals sign. -/
def pair (piece : Bytes) : String × String :=
  (part (piece.takeWhile (· != 0x3D)), part ((piece.dropWhile (· != 0x3D)).drop 1))

/-- The fields of a query, which is cut at its ampersands. Empty pieces do not count. -/
def fields (query : List Char) : List (String × String) :=
  (((Utf8.encode (String.ofList query)).splitOn 0x26).filter fun piece => !piece.isEmpty).map pair

/-- The bytes of the name or of the value of a field as it is written. -/
def written (text : List Char) : Bytes :=
  (Escape.form text).flatMap String.utf8EncodeChar

/-! ### Characters that stand for themselves -/

/-- Letters, digits and four marks are in ASCII, and no mark with a meaning is among them. -/
theorem plain_of_isPlainInForm {char : Char} (plain : Escape.isPlainInForm char = true) :
    String.utf8EncodeChar char = [UInt8.ofNat char.toNat] ∧
      UInt8.ofNat char.toNat ∉ [0x25, 0x26, 0x2B, 0x3D] := by
  have each : ∀ number < 128, Escape.isPlainInForm (Char.ofNat number) = true →
      UInt8.ofNat number ∉ [0x25, 0x26, 0x2B, 0x3D] := by decide +kernel
  have small : char.toNat < 128 := by
    simp only [Escape.isPlainInForm, Bool.or_eq_true, Bool.and_eq_true, decide_eq_true_eq] at plain
    rcases plain with ((⟨_, below⟩ | ⟨_, below⟩) | ⟨_, below⟩) | mark
    · exact Nat.lt_of_le_of_lt below (by decide)
    · exact Nat.lt_of_le_of_lt below (by decide)
    · exact Nat.lt_of_le_of_lt below (by decide)
    · have marks : ("*-._".toList.all fun mark => mark.toNat < 128) = true := by decide
      exact of_decide_eq_true (List.all_eq_true.mp marks char (List.contains_iff_mem.mp mark))
  refine ⟨Utf8.utf8EncodeChar_of_lt small, each char.toNat small ?_⟩
  rw [Char.ofNat_toNat]
  exact plain

/-- An escaped byte is a percent sign and two digits. -/
theorem escapedByte_apart (value : UInt8) :
    ∀ byte ∈ Escape.escapedByte value, byte ∉ [0x26, 0x2B, 0x3D] := by
  have each : ∀ number < 16, UInt8.ofNat (Hex.digit Hex.capitalDigits number).toNat ∉
      [0x26, 0x2B, 0x3D] := by decide
  have size := value.toNat_lt
  simp only [Escape.escapedByte, List.forall_mem_cons]
  exact ⟨by decide, each _ (by omega), each _ (by omega), nofun⟩

/-! ### Opening -/

theorem map_spaced_of_apart {bytes : Bytes} (apart : ∀ byte ∈ bytes, byte ∉ [0x26, 0x2B, 0x3D]) :
    bytes.map spaced = bytes := by
  have same : ∀ byte ∈ bytes, spaced byte = byte := by
    intro byte member
    refine if_neg ?_
    rintro rfl
    exact apart _ member (by decide)
  exact (List.map_congr_left same).trans (List.map_id' bytes)

/-- Escaped bytes are opened to what they were. -/
theorem opened_escaped (bytes rest : Bytes) :
    Escape.opened ((bytes.flatMap Escape.escapedByte).map spaced ++ rest) =
      bytes ++ Escape.opened rest := by
  induction bytes with
  | nil => rfl
  | cons byte bytes ih =>
    obtain ⟨high, low, digits, spelled⟩ := Escape.spelled?_escapedByte byte
    rw [List.flatMap_cons, List.map_append, map_spaced_of_apart (escapedByte_apart byte), digits,
      List.append_assoc]
    show Escape.opened (0x25 :: high :: low :: ((bytes.flatMap Escape.escapedByte).map spaced ++ rest)) = _
    rw [Escape.opened, spelled, ih]
    rfl

/-- **A character is opened to what it was**, whatever follows. -/
theorem opened_written_singleton (char : Char) (rest : Bytes) :
    Escape.opened ((written [char]).map spaced ++ rest) =
      String.utf8EncodeChar char ++ Escape.opened rest := by
  rw [written, Escape.form, List.flatMap_singleton]
  split
  · next plain =>
    obtain ⟨single, apart⟩ := plain_of_isPlainInForm plain
    simp only [List.mem_cons, List.not_mem_nil, or_false, not_or] at apart
    obtain ⟨percent, _, plus, _⟩ := apart
    rw [List.flatMap_singleton, single, List.map_singleton, spaced, if_neg plus]
    exact Escape.opened_of_ne percent rest
  · split
    · next space =>
      rw [space]
      exact Escape.opened_of_ne (by decide) rest
    · rw [Escape.flatMap_byBytes]
      exact opened_escaped _ rest

theorem written_cons (char : Char) (text : List Char) :
    written (char :: text) = written [char] ++ written text := by
  rw [written, written, written, ← List.flatMap_append, Escape.form, Escape.form, Escape.form,
    List.flatMap_cons, List.flatMap_singleton]

/-- **The name or the value of a field is opened to what it was.** -/
theorem opened_written (text : List Char) :
    Escape.opened ((written text).map spaced) = text.flatMap String.utf8EncodeChar := by
  induction text with
  | nil => rfl
  | cons char text ih =>
    rw [written_cons, List.map_append, opened_written_singleton, ih, List.flatMap_cons]

/-- **It holds no mark at which a query is cut.** -/
theorem apart_of_mem_written {text : List Char} {byte : UInt8} (member : byte ∈ written text) :
    byte ≠ 0x26 ∧ byte ≠ 0x3D := by
  obtain ⟨char, inside, member⟩ := List.mem_flatMap.mp member
  obtain ⟨origin, _, inside⟩ := List.mem_flatMap.mp inside
  split at inside
  · next plain =>
    rw [List.mem_singleton.mp inside] at member
    obtain ⟨single, apart⟩ := plain_of_isPlainInForm plain
    rw [single, List.mem_singleton] at member
    simp only [List.mem_cons, List.not_mem_nil, or_false, not_or] at apart
    rw [member]
    exact ⟨apart.2.1, apart.2.2.2⟩
  · split at inside
    · rw [List.mem_singleton.mp inside] at member
      rw [List.mem_singleton.mp member]
      decide
    · have escaped : byte ∈ (String.utf8EncodeChar origin).flatMap Escape.escapedByte := by
        rw [← Escape.flatMap_byBytes]
        exact List.mem_flatMap.mpr ⟨char, inside, member⟩
      obtain ⟨value, _, here⟩ := List.mem_flatMap.mp escaped
      have apart := escapedByte_apart value byte here
      simp only [List.mem_cons, List.not_mem_nil, or_false, not_or] at apart
      exact ⟨apart.1, apart.2.2⟩

theorem part_written (text : String) : part (written text.toList) = text := by
  rw [part, opened_written, ← Utf8.encode_ofList, String.ofList_toList, Utf8.decodeLossy_encode]

/-! ### One field -/

theorem encode_field (name value : List Char) :
    Utf8.encode (String.ofList (Escape.field name value)) = written name ++ 0x3D :: written value := by
  rw [Utf8.encode_ofList, Escape.field, List.flatMap_append, List.flatMap_cons]
  rfl

/-- **One field is read from a query that is one field**: its name and its value, whatever stands in
them. -/
theorem fields_field (name value : String) :
    fields (Escape.field name.toList value.toList) = [(name, value)] := by
  have whole : ∀ byte ∈ written name.toList ++ 0x3D :: written value.toList, (byte == 0x26) = false := by
    simp only [List.forall_mem_append, List.forall_mem_cons, beq_eq_false_iff_ne]
    exact ⟨fun byte member => (apart_of_mem_written member).1, by decide,
      fun byte member => (apart_of_mem_written member).1⟩
  have front : ∀ byte ∈ written name.toList, (byte != 0x3D) = true := by
    intro byte member
    exact bne_iff_ne.mpr (apart_of_mem_written member).2
  have some : (written name.toList ++ 0x3D :: written value.toList).isEmpty = false := by
    rw [List.isEmpty_eq_false_iff]
    exact List.append_ne_nil_of_right_ne_nil _ (List.cons_ne_nil _ _)
  rw [fields, encode_field, List.splitOn, List.splitOnP_eq_singleton whole, List.filter_singleton, some]
  show [pair (written name.toList ++ 0x3D :: written value.toList)] = _
  rw [pair, List.takeWhile_append_of_pos front, List.dropWhile_append_of_pos front]
  show [(part (written name.toList ++ []), part (written value.toList))] = _
  rw [List.append_nil, part_written, part_written]

end Form

end SignedPurchase
