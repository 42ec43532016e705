import SignedPurchase.Bytes

/-
**Text as bytes.**

* `Utf8.encode` writes a text, `Utf8.decode?` reads one and refuses every byte sequence that is not
  the encoding of a text;
* `Utf8.front` cuts a text off at an offset in bytes, which must stand between two characters;
* `Utf8.decodeLossy` reads any bytes: each longest piece that could still have begun a character
  becomes one replacement character.
-/

namespace SignedPurchase

namespace Utf8

/-- The bytes of a text. -/
def encode (text : String) : Bytes :=
  text.toByteArray.data.toList

/-- The text of the bytes, when they are the encoding of one. -/
def decode? (bytes : Bytes) : Option String :=
  String.fromUTF8? ⟨bytes.toArray⟩

/-- Reading what was written gives the text back. -/
theorem decode?_encode (text : String) : decode? (encode text) = some text := by
  have same : (⟨text.toByteArray.data.toList.toArray⟩ : ByteArray) = text.toByteArray := rfl
  unfold decode? encode
  rw [same, String.fromUTF8?]
  simp only [Option.dite_none_right_eq_some, Option.some.injEq]
  exact ⟨text.isValidUTF8, rfl⟩

/-- The bytes of a text come piece by piece. -/
theorem encode_append (left right : String) :
    encode (left ++ right) = encode left ++ encode right := by
  unfold encode
  rw [String.toByteArray_append, ByteArray.data_append, Array.toList_append]

/-- The front of a text, up to an offset in bytes that is neither beyond the end nor inside a
character. -/
def front (text : String) (offset : Nat) (between : String.Pos.Raw.IsValid text ⟨offset⟩) :
    String :=
  (text.sliceTo (text.pos ⟨offset⟩ between)).copy

section Front

variable {text before after : String} {offset : Nat}

/-- Where a piece of a text ends is between two characters. -/
theorem isValid_of_append (whole : text = before ++ after) (size : before.utf8ByteSize = offset) :
    String.Pos.Raw.IsValid text ⟨offset⟩ := by
  subst size
  exact String.Pos.Raw.isValid_iff_exists_append.mpr ⟨before, after, whole, rfl⟩

/-- What is cut off there is the piece. -/
theorem front_of_append (whole : text = before ++ after) (size : before.utf8ByteSize = offset)
    (between : String.Pos.Raw.IsValid text ⟨offset⟩) : front text offset between = before := by
  subst size
  exact (String.Pos.splits _).eq_left ⟨whole, rfl⟩

end Front

/-- What a leading byte announces: how many bytes follow, and the bounds of the first of them. -/
def announced? (byte : UInt8) : Option (Nat × UInt8 × UInt8) :=
  if byte < 0x80 then some (0, 0, 0)
  else if byte < 0xC2 then none
  else if byte < 0xE0 then some (1, 0x80, 0xBF)
  else if byte = 0xE0 then some (2, 0xA0, 0xBF)
  else if byte = 0xED then some (2, 0x80, 0x9F)
  else if byte < 0xF0 then some (2, 0x80, 0xBF)
  else if byte = 0xF0 then some (3, 0x90, 0xBF)
  else if byte < 0xF4 then some (3, 0x80, 0xBF)
  else if byte = 0xF4 then some (3, 0x80, 0x8F)
  else none

/-- How many of the next bytes continue a character: at most `count`, the first within its own
bounds and the others within `80` to `BF`. -/
def continuing : Nat → UInt8 → UInt8 → Bytes → Nat
  | count + 1, low, high, byte :: rest =>
    if low ≤ byte && byte ≤ high then continuing count 0x80 0xBF rest + 1 else 0
  | _, _, _, _ => 0

/-- The mark that stands for bytes which are no text. -/
def replacement : Bytes := [0xEF, 0xBF, 0xBD]

/-- Replaces every piece that is not the encoding of a character. The first argument counts bytes
already accounted for; of these, the ones that are kept are copied. -/
def repair (skipped : Nat) (kept : Bool) : Bytes → Bytes
  | [] => []
  | byte :: rest =>
    match skipped with
    | left + 1 => if kept then byte :: repair left kept rest else repair left kept rest
    | 0 =>
      match announced? byte with
      | none => replacement ++ repair 0 true rest
      | some (count, low, high) =>
        let present := continuing count low high rest
        if present = count then byte :: repair count true rest
        else replacement ++ repair present false rest

/-- The text of the bytes, with a replacement character for each piece that is none. -/
def decodeLossy (bytes : Bytes) : String :=
  (decode? (repair 0 true bytes)).getD ""

end Utf8

end SignedPurchase
