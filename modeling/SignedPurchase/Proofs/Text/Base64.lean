import Mathlib.Data.List.Induction
import Mathlib.Data.List.TakeWhile
import SignedPurchase.Text.Base64

/-
**Bytes that are written in base64 and read again.**

* `Base64.Alphabet.value?_char`: no two of the sixty-four values share a character;
* `Base64.bytesOfSextets?_sextetsOfBytes`: sextets are put together as they were taken apart, three
  bytes at a time;
* `Base64.decode?_padded`: what stands before the padding is read;
* `Base64.decode?_symbols_append`: what is written is read back with any padding that may stand there;
* `Base64.decode?_symbols` and `Base64.decode?_encode` are its cases without padding and with all of it.
-/

namespace SignedPurchase

namespace Base64

variable {alphabet : Alphabet} {value : Nat}

/-! ### Characters -/

theorem Alphabet.value?_char (small : value < 64) :
    alphabet.value? (alphabet.char value) = some value := by
  have each : ∀ alphabet : Alphabet, ∀ value < 64,
      alphabet.value? (alphabet.char value) = some value := by
    rintro (_ | _)
    · decide
    · decide
  exact each alphabet value small

theorem Alphabet.char_ne_filling (small : value < 64) : alphabet.char value ≠ '=' := by
  intro filling
  have foreign : alphabet.value? '=' = none := by cases alphabet <;> decide
  rw [← filling, value?_char small] at foreign
  cases foreign

theorem Alphabet.filling_not_mem_map_char {values : List Nat} (small : ∀ value ∈ values, value < 64) :
    '=' ∉ values.map alphabet.char := by
  intro member
  obtain ⟨value, found, same⟩ := List.mem_map.mp member
  exact char_ne_filling (small value found) same

theorem Alphabet.values?_map_char {values : List Nat} (small : ∀ value ∈ values, value < 64) :
    alphabet.values? (values.map alphabet.char) = some values := by
  induction values with
  | nil => rfl
  | cons value rest ih =>
    obtain ⟨here, later⟩ := List.forall_mem_cons.mp small
    rw [List.map_cons, values?, value?_char here, ih later]

/-! ### Sextets -/

theorem sextetsOfBytes_lt : (bytes : Bytes) → ∀ value ∈ sextetsOfBytes bytes, value < 64
  | [] => by simp [sextetsOfBytes]
  | [a] => by
    have := a.toNat_lt
    simp only [sextetsOfBytes, List.forall_mem_cons, List.not_mem_nil, false_imp_iff,
      implies_true, and_true]
    omega
  | [a, b] => by
    have := a.toNat_lt
    have := b.toNat_lt
    simp only [sextetsOfBytes, List.forall_mem_cons, List.not_mem_nil, false_imp_iff,
      implies_true, and_true]
    omega
  | a :: b :: c :: rest => by
    have := a.toNat_lt
    have := b.toNat_lt
    have := c.toNat_lt
    simp only [sextetsOfBytes, List.forall_mem_cons]
    refine ⟨by omega, by omega, by omega, by omega, sextetsOfBytes_lt rest⟩

theorem ofNat_eq_of_mod {number : Nat} (byte : UInt8) (same : number % 256 = byte.toNat) :
    UInt8.ofNat number = byte := by
  rw [← UInt8.toNat_inj, UInt8.toNat_ofNat', same]

/-- **Sextets are put together as they were taken apart.** -/
theorem bytesOfSextets?_sextetsOfBytes :
    (bytes : Bytes) → bytesOfSextets? (sextetsOfBytes bytes) = some bytes
  | [] => rfl
  -- The bits that one or two bytes leave unused are zero, as the reader asks.
  | [a] => by
    have := a.toNat_lt
    rw [sextetsOfBytes, bytesOfSextets?, if_pos (by omega), ofNat_eq_of_mod a (by omega)]
  | [a, b] => by
    have := a.toNat_lt
    have := b.toNat_lt
    rw [sextetsOfBytes, bytesOfSextets?, if_pos (by omega), ofNat_eq_of_mod a (by omega),
      ofNat_eq_of_mod b (by omega)]
  | a :: b :: c :: rest => by
    have := a.toNat_lt
    have := b.toNat_lt
    have := c.toNat_lt
    rw [sextetsOfBytes, bytesOfSextets?, bytesOfSextets?_sextetsOfBytes rest]
    simp only
    rw [ofNat_eq_of_mod a (by omega), ofNat_eq_of_mod b (by omega), ofNat_eq_of_mod c (by omega)]

/-! ### Whole texts -/

theorem values?_symbols (alphabet : Alphabet) (bytes : Bytes) :
    alphabet.values? (symbols alphabet bytes) = some (sextetsOfBytes bytes) :=
  Alphabet.values?_map_char (sextetsOfBytes_lt bytes)

theorem filling_not_mem_symbols (alphabet : Alphabet) (bytes : Bytes) :
    '=' ∉ symbols alphabet bytes :=
  Alphabet.filling_not_mem_map_char (sextetsOfBytes_lt bytes)

/-- A text is something that does not end in padding, and the padding after it. -/
theorem exists_unpadded (text : List Char) : ∃ plain filling, plain.getLast? ≠ some '=' ∧
    text = plain ++ List.replicate filling '=' := by
  induction text using List.reverseRecOn with
  | nil => exact ⟨[], 0, nofun, rfl⟩
  | append_singleton front last ih =>
    by_cases padded : last = '='
    · obtain ⟨plain, filling, bare, rfl⟩ := ih
      refine ⟨plain, filling + 1, bare, ?_⟩
      rw [padded, List.replicate_succ', List.append_assoc]
    · refine ⟨front ++ [last], 0, ?_, (List.append_nil _).symm⟩
      rw [List.getLast?_concat]
      exact fun same => padded (Option.some.inj same)

/-- **What stands before the padding is read**, if the padding may stand there. -/
theorem decode?_padded {plain : List Char} (alphabet : Alphabet) (padding : Padding)
    (bare : plain.getLast? ≠ some '=') (filling : Nat) :
    decode? alphabet padding (plain ++ List.replicate filling '=') =
      if padding.admits plain.length filling then (alphabet.values? plain).bind bytesOfSextets?
      else none := by
  have ending : plain.reverse.takeWhile (· == '=') = [] := by
    rw [List.takeWhile_eq_nil_iff]
    intro long filled
    refine bare ?_
    rw [← List.head?_reverse, List.head?_eq_getElem?, List.getElem?_eq_getElem long]
    exact congrArg some (beq_iff_eq.mp filled)
  have taken : ((plain ++ List.replicate filling '=').reverse.takeWhile (· == '=')).length =
      filling := by
    rw [List.reverse_append, List.reverse_replicate, List.takeWhile_append_of_pos, ending,
      List.append_nil, List.length_replicate]
    intro char member
    exact beq_iff_eq.mpr (List.eq_of_mem_replicate member)
  have front : (plain ++ List.replicate filling '=').take
      ((plain ++ List.replicate filling '=').length - filling) = plain := by
    rw [List.length_append, List.length_replicate, Nat.add_sub_cancel, List.take_left]
  rw [decode?, taken, front]
  cases alphabet.values? plain with
  | none => rfl
  | some values => rfl

theorem getLast?_symbols (alphabet : Alphabet) (bytes : Bytes) :
    (symbols alphabet bytes).getLast? ≠ some '=' := fun last =>
  filling_not_mem_symbols alphabet bytes (List.mem_of_getLast? last)

/-- **What is written is read back**, with as much padding as may stand there. -/
theorem decode?_symbols_append {padding : Padding} {filling : Nat} (alphabet : Alphabet)
    (bytes : Bytes)
    (admitted : padding.admits (symbols alphabet bytes).length filling = true) :
    decode? alphabet padding (symbols alphabet bytes ++ List.replicate filling '=') = some bytes := by
  rw [decode?_padded alphabet padding (getLast?_symbols alphabet bytes), if_pos admitted,
    values?_symbols, Option.bind_some, bytesOfSextets?_sextetsOfBytes]

/-- What is written without padding is read back where padding may be left out. -/
theorem decode?_symbols (alphabet : Alphabet) (bytes : Bytes) :
    decode? alphabet .indifferent (symbols alphabet bytes) = some bytes := by
  have admitted : Padding.indifferent.admits (symbols alphabet bytes).length 0 = true :=
    decide_eq_true (Nat.zero_le (fillingOf (symbols alphabet bytes).length))
  have read := decode?_symbols_append alphabet bytes admitted
  rwa [List.replicate_zero, List.append_nil] at read

/-- What is written where padding is required is read back there. -/
theorem decode?_encode (alphabet : Alphabet) (bytes : Bytes) :
    decode? alphabet .required (encode alphabet .required bytes).toList = some bytes := by
  rw [encode, String.toList_ofList]
  exact decode?_symbols_append alphabet bytes (beq_self_eq_true _)

end Base64

end SignedPurchase
