import Mathlib.Algebra.Ring.Nat
import Mathlib.Data.List.TakeWhile
import SignedPurchase.Proofs.Text.Base64

/-
**Which texts spell bytes.**

The characters of a text stand for six bits each. Put in a row these are the bits of the bytes, and zeros
after them where the bytes give out. So bytes have one spelling, apart from the padding after it.

* `IsSpelling` says this of a text without padding, `isSpelling_iff` that it is what is written;
* `decode?_eq_some_iff`: a text is read as bytes exactly when it is their spelling and a padding that may
  stand there;
* `IsMisspelt` lists what can be wrong with a text, `decode?_eq_none_iff` that nothing else is refused.
-/

namespace SignedPurchase

namespace Base64

variable {alphabet : Alphabet} {padding : Padding} {value : Nat} {char : Char} {bytes : Bytes}

/-! ### Bits -/

/-- So many bits of a number, the lowest last. -/
def bits : (width value : Nat) → List Bool
  | 0, _ => []
  | width + 1, value => bits width (value / 2) ++ [value % 2 == 1]

theorem length_bits (width value : Nat) : (bits width value).length = width := by
  induction width generalizing value with
  | zero => rfl
  | succ width ih => rw [bits, List.length_append, ih, List.length_singleton]

/-- A number that is put together from two has the bits of both. -/
theorem bits_add (more width high low : Nat) (small : low < 2 ^ width) :
    bits (more + width) (high * 2 ^ width + low) = bits more high ++ bits width low := by
  induction width generalizing low with
  | zero =>
    rw [Nat.pow_zero, Nat.lt_one_iff] at small
    rw [small, Nat.pow_zero, Nat.mul_one, bits, List.append_nil]
    rfl
  | succ width ih =>
    rw [Nat.pow_succ] at small
    have half : (high * 2 ^ (width + 1) + low) / 2 = high * 2 ^ width + low / 2 := by
      rw [Nat.pow_succ, ← Nat.mul_assoc]
      omega
    have last : (high * 2 ^ (width + 1) + low) % 2 = low % 2 := by
      rw [Nat.pow_succ, ← Nat.mul_assoc]
      omega
    rw [← Nat.add_assoc, bits, bits, half, last, ih (low / 2) (by omega), List.append_assoc]

/-- Small numbers are told apart by their bits. -/
theorem bits_inj {width first second : Nat} (smallFirst : first < 2 ^ width)
    (smallSecond : second < 2 ^ width) (same : bits width first = bits width second) :
    first = second := by
  induction width generalizing first second with
  | zero => omega
  | succ width ih =>
    rw [Nat.pow_succ] at smallFirst smallSecond
    obtain ⟨front, last⟩ := List.append_inj' same rfl
    have halves := ih (by omega) (by omega) front
    have parity := (List.cons.inj last).1
    rw [Bool.eq_iff_iff, beq_iff_eq, beq_iff_eq] at parity
    omega

/-- A byte is six bits and two, or four and four, or two and six. -/
theorem bits_byte (byte : Nat) :
    bits 8 byte = bits 6 (byte / 4) ++ bits 2 (byte % 4) ∧
      bits 8 byte = bits 4 (byte / 16) ++ bits 4 (byte % 16) ∧
      bits 8 byte = bits 2 (byte / 64) ++ bits 6 (byte % 64) := by
  have first : byte / 4 * 2 ^ 2 + byte % 4 = byte := Nat.div_add_mod' byte 4
  have middle : byte / 16 * 2 ^ 4 + byte % 16 = byte := Nat.div_add_mod' byte 16
  have last : byte / 64 * 2 ^ 6 + byte % 64 = byte := Nat.div_add_mod' byte 64
  refine ⟨?_, ?_, ?_⟩
  · rw [← bits_add 6 2 (byte / 4) (byte % 4) (by omega), first]
  · rw [← bits_add 4 4 (byte / 16) (byte % 16) (by omega), middle]
  · rw [← bits_add 2 6 (byte / 64) (byte % 64) (by omega), last]

/-- A sextet between two bytes has bits of both. -/
theorem bits_sextet (more width high low : Nat) {sextet : Nat} (six : more + width = 6)
    (small : low < 2 ^ width) (parts : sextet = high * 2 ^ width + low) :
    bits 6 sextet = bits more high ++ bits width low := by
  rw [parts, ← six, bits_add more width high low small]

/-- The bits of bytes, one byte after another. -/
def bitsOf (bytes : Bytes) : List Bool :=
  bytes.flatMap fun byte => bits 8 byte.toNat

/-- **Sextets have the bits of the bytes**, and zeros after them. -/
theorem flatMap_sextetsOfBytes : (bytes : Bytes) → ∃ unused < 6,
    (sextetsOfBytes bytes).flatMap (bits 6) = bitsOf bytes ++ List.replicate unused false
  | [] => ⟨0, by decide, rfl⟩
  | [a] => by
    obtain ⟨whole, _, _⟩ := bits_byte a.toNat
    have second : bits 6 (a.toNat % 4 * 16) = bits 2 (a.toNat % 4) ++ bits 4 0 :=
      bits_sextet 2 4 (a.toNat % 4) 0 rfl (by decide) (by omega)
    refine ⟨4, by decide, ?_⟩
    simp only [sextetsOfBytes, bitsOf, List.flatMap_cons, List.flatMap_nil, List.append_nil, whole,
      second, List.append_assoc]
    rfl
  | [a, b] => by
    have := b.toNat_lt
    obtain ⟨firstByte, _, _⟩ := bits_byte a.toNat
    obtain ⟨_, secondByte, _⟩ := bits_byte b.toNat
    have second : bits 6 (a.toNat % 4 * 16 + b.toNat / 16) =
        bits 2 (a.toNat % 4) ++ bits 4 (b.toNat / 16) :=
      bits_sextet 2 4 (a.toNat % 4) (b.toNat / 16) rfl (by omega) (by omega)
    have third : bits 6 (b.toNat % 16 * 4) = bits 4 (b.toNat % 16) ++ bits 2 0 :=
      bits_sextet 4 2 (b.toNat % 16) 0 rfl (by decide) (by omega)
    refine ⟨2, by decide, ?_⟩
    simp only [sextetsOfBytes, bitsOf, List.flatMap_cons, List.flatMap_nil, List.append_nil,
      firstByte, secondByte, second, third, List.append_assoc]
    rfl
  | a :: b :: c :: rest => by
    have := b.toNat_lt
    have := c.toNat_lt
    obtain ⟨firstByte, _, _⟩ := bits_byte a.toNat
    obtain ⟨_, secondByte, _⟩ := bits_byte b.toNat
    obtain ⟨_, _, thirdByte⟩ := bits_byte c.toNat
    have second : bits 6 (a.toNat % 4 * 16 + b.toNat / 16) =
        bits 2 (a.toNat % 4) ++ bits 4 (b.toNat / 16) :=
      bits_sextet 2 4 (a.toNat % 4) (b.toNat / 16) rfl (by omega) (by omega)
    have third : bits 6 (b.toNat % 16 * 4 + c.toNat / 64) =
        bits 4 (b.toNat % 16) ++ bits 2 (c.toNat / 64) :=
      bits_sextet 4 2 (b.toNat % 16) (c.toNat / 64) rfl (by omega) (by omega)
    obtain ⟨unused, few, later⟩ := flatMap_sextetsOfBytes rest
    refine ⟨unused, few, ?_⟩
    simp only [bitsOf] at later
    simp only [sextetsOfBytes, bitsOf, List.flatMap_cons, firstByte, secondByte, thirdByte, second,
      third, later, List.append_assoc]

/-- Sextets with the same bits are the same. -/
theorem eq_of_flatMap_bits {first second : List Nat} (smallFirst : ∀ value ∈ first, value < 64)
    (smallSecond : ∀ value ∈ second, value < 64)
    (same : first.flatMap (bits 6) = second.flatMap (bits 6)) : first = second := by
  induction first generalizing second with
  | nil =>
    cases second with
    | nil => rfl
    | cons value rest => cases same
  | cons value rest ih =>
    cases second with
    | nil => cases same
    | cons other others =>
      obtain ⟨small, smallFirst⟩ := List.forall_mem_cons.mp smallFirst
      obtain ⟨smallOther, smallSecond⟩ := List.forall_mem_cons.mp smallSecond
      have lengths : (bits 6 value).length = (bits 6 other).length := by
        rw [length_bits, length_bits]
      obtain ⟨here, later⟩ := List.append_inj same lengths
      rw [bits_inj small smallOther here, ih smallFirst smallSecond later]

theorem length_flatMap_bits (values : List Nat) :
    (values.flatMap (bits 6)).length = 6 * values.length := by
  induction values with
  | nil => rfl
  | cons value rest ih =>
    rw [List.flatMap_cons, List.length_append, length_bits, ih, List.length_cons]
    omega

/-! ### Spellings -/

/-- The characters of a text stand for the bits of bytes, six each. The last one is filled up with
zeros. -/
def IsSpelling (alphabet : Alphabet) (text : List Char) (bytes : Bytes) : Prop :=
  ∃ values : List Nat, (∀ value ∈ values, value < 64) ∧ text = values.map alphabet.char ∧
    ∃ unused < 6, values.flatMap (bits 6) = bitsOf bytes ++ List.replicate unused false

/-- **The spelling of bytes is what is written of them.** There are as many zeros as it takes to fill up
the last sextet, so the sextets are settled by the bytes. -/
theorem isSpelling_iff {text : List Char} :
    IsSpelling alphabet text bytes ↔ text = symbols alphabet bytes := by
  obtain ⟨unused, few, written⟩ := flatMap_sextetsOfBytes bytes
  refine ⟨?_, ?_⟩
  · rintro ⟨values, small, rfl, other, fewOther, spelt⟩
    have lengths := congrArg List.length written
    have lengthsOther := congrArg List.length spelt
    rw [length_flatMap_bits, List.length_append, List.length_replicate] at lengths lengthsOther
    have same : other = unused := by omega
    rw [same, ← written] at spelt
    rw [eq_of_flatMap_bits small (sextetsOfBytes_lt bytes) spelt, symbols]
  · rintro rfl
    exact ⟨sextetsOfBytes bytes, sextetsOfBytes_lt bytes, rfl, unused, few, written⟩

/-! ### What is read -/

/-- A character between two others is between them by number. -/
theorem toNat_bounds {low high : Char} (within : (low ≤ char && char ≤ high) = true) :
    low.toNat ≤ char.toNat ∧ char.toNat ≤ high.toNat := by
  rw [Bool.and_eq_true, decide_eq_true_eq, decide_eq_true_eq] at within
  exact ⟨UInt32.le_iff_toNat_le.mp within.1, UInt32.le_iff_toNat_le.mp within.2⟩

/-- **A character is read as the value that is written so.** -/
theorem Alphabet.value?_eq_some_iff :
    alphabet.value? char = some value ↔ value < 64 ∧ char = alphabet.char value := by
  refine ⟨?_, ?_⟩
  · intro read
    unfold value? at read
    split at read
    · next within =>
      obtain ⟨low, high⟩ : 65 ≤ char.toNat ∧ char.toNat ≤ 90 := toNat_bounds within
      cases read
      rw [Alphabet.char, if_pos (by omega), Nat.sub_add_cancel low, Char.ofNat_toNat]
      exact ⟨by omega, rfl⟩
    split at read
    · next within =>
      obtain ⟨low, high⟩ : 97 ≤ char.toNat ∧ char.toNat ≤ 122 := toNat_bounds within
      cases read
      rw [Alphabet.char, if_neg (by omega), if_pos (by omega), Nat.add_sub_cancel,
        Nat.sub_add_cancel low, Char.ofNat_toNat]
      exact ⟨by omega, rfl⟩
    split at read
    · next within =>
      obtain ⟨low, high⟩ : 48 ≤ char.toNat ∧ char.toNat ≤ 57 := toNat_bounds within
      cases read
      rw [Alphabet.char, if_neg (by omega), if_neg (by omega), if_pos (by omega),
        Nat.add_sub_cancel, Nat.sub_add_cancel low, Char.ofNat_toNat]
      exact ⟨by omega, rfl⟩
    split at read
    · next same =>
      cases read
      exact ⟨by decide, same⟩
    split at read
    · next same =>
      cases read
      exact ⟨by decide, same⟩
    · cases read
  · rintro ⟨small, rfl⟩
    exact value?_char small

theorem Alphabet.values?_eq_some_iff {chars : List Char} {values : List Nat} :
    alphabet.values? chars = some values ↔
      (∀ value ∈ values, value < 64) ∧ chars = values.map alphabet.char := by
  refine ⟨?_, ?_⟩
  · intro read
    induction chars generalizing values with
    | nil =>
      cases read
      exact ⟨nofun, rfl⟩
    | cons char rest ih =>
      unfold values? at read
      split at read
      · next value others here later =>
        cases read
        obtain ⟨small, rfl⟩ := value?_eq_some_iff.mp here
        obtain ⟨each, rfl⟩ := ih later
        exact ⟨List.forall_mem_cons.mpr ⟨small, each⟩, rfl⟩
      · cases read
  · rintro ⟨small, rfl⟩
    exact values?_map_char small

/-- **Sextets are read as the bytes that are taken apart into them.** -/
theorem bytesOfSextets?_eq_some_iff {sextets : List Nat}
    (small : ∀ value ∈ sextets, value < 64) :
    bytesOfSextets? sextets = some bytes ↔ sextets = sextetsOfBytes bytes := by
  refine ⟨?_, fun same => same ▸ bytesOfSextets?_sextetsOfBytes bytes⟩
  intro read
  fun_induction bytesOfSextets? sextets generalizing bytes with
  | case1 =>
    cases read
    rfl
  | case3 a b unused =>
    cases read
    simp only [List.forall_mem_cons] at small
    simp only [sextetsOfBytes, UInt8.toNat_ofNat', List.cons.injEq, and_true]
    omega
  | case5 a b c unused =>
    cases read
    simp only [List.forall_mem_cons] at small
    simp only [sextetsOfBytes, UInt8.toNat_ofNat', List.cons.injEq, and_true]
    omega
  | case7 a b c d rest later found ih =>
    cases read
    simp only [List.forall_mem_cons] at small
    obtain ⟨smallA, smallB, smallC, smallD, small⟩ := small
    rw [sextetsOfBytes, ← ih small found]
    simp only [UInt8.toNat_ofNat', List.cons.injEq, and_true]
    omega
  | case2 | case4 | case6 | case8 => cases read

/-- **The texts that are read as bytes** are their spelling, and after it a padding that may stand
there. -/
theorem decode?_eq_some_iff {text : List Char} :
    decode? alphabet padding text = some bytes ↔
      ∃ plain filling, IsSpelling alphabet plain bytes ∧
        padding.admits plain.length filling = true ∧ text = plain ++ List.replicate filling '=' := by
  refine ⟨?_, ?_⟩
  · intro read
    obtain ⟨plain, filling, bare, rfl⟩ := exists_unpadded text
    rw [decode?_padded alphabet padding bare, Option.ite_none_right_eq_some,
      Option.bind_eq_some_iff] at read
    obtain ⟨admitted, sextets, values, bytes⟩ := read
    obtain ⟨small, rfl⟩ := Alphabet.values?_eq_some_iff.mp values
    refine ⟨_, filling, isSpelling_iff.mpr ?_, admitted, rfl⟩
    rw [symbols, (bytesOfSextets?_eq_some_iff small).mp bytes]
  · rintro ⟨plain, filling, spelling, admitted, rfl⟩
    obtain rfl := isSpelling_iff.mp spelling
    exact decode?_symbols_append alphabet bytes admitted

/-- Where padding is required there is one text for bytes. -/
theorem decode?_required_eq_some_iff {text : List Char} :
    decode? alphabet .required text = some bytes ↔ ∃ plain, IsSpelling alphabet plain bytes ∧
      text = plain ++ List.replicate (fillingOf plain.length) '=' := by
  simp only [decode?_eq_some_iff, Padding.admits, beq_iff_eq]
  refine exists_congr fun plain => ⟨?_, ?_⟩
  · rintro ⟨_, spelling, rfl, same⟩
    exact ⟨spelling, same⟩
  · rintro ⟨spelling, same⟩
    exact ⟨_, spelling, rfl, same⟩

/-- Where it may be left out there are as many as there is room for. -/
theorem decode?_indifferent_eq_some_iff {text : List Char} :
    decode? alphabet .indifferent text = some bytes ↔
      ∃ plain filling, IsSpelling alphabet plain bytes ∧ filling ≤ fillingOf plain.length ∧
        text = plain ++ List.replicate filling '=' := by
  simp only [decode?_eq_some_iff, Padding.admits, decide_eq_true_eq]

/-! ### What is refused -/

/-- The last sextet has bits that are not zero and that no byte uses. -/
def HasStrayBits (sextets : List Nat) : Prop :=
  ∃ last ∈ sextets.getLast?, sextets.length % 4 = 2 ∧ last % 16 ≠ 0 ∨
    sextets.length % 4 = 3 ∧ last % 4 ≠ 0

/-- Four sextets before others change nothing about what is left over. -/
theorem length_four_more (a b c d : Nat) (rest : List Nat) :
    (a :: b :: c :: d :: rest).length % 4 = rest.length % 4 := by
  simp only [List.length_cons]
  omega

theorem hasStrayBits_four_more (a b c d : Nat) {rest : List Nat} :
    HasStrayBits (a :: b :: c :: d :: rest) ↔ HasStrayBits rest := by
  unfold HasStrayBits
  cases rest with
  | nil => simp
  | cons value others =>
    rw [length_four_more]
    simp only [List.getLast?_cons_cons]

/-- Sextets are no bytes when one is left over at the end, or bits are. -/
theorem bytesOfSextets?_eq_none_iff {sextets : List Nat} :
    bytesOfSextets? sextets = none ↔ sextets.length % 4 = 1 ∨ HasStrayBits sextets := by
  fun_induction bytesOfSextets? sextets with
  | case7 a b c d rest later found ih =>
    rw [length_four_more, hasStrayBits_four_more, ← ih, found]
    exact ⟨nofun, nofun⟩
  | case8 a b c d rest absent ih =>
    rw [length_four_more, hasStrayBits_four_more, ← ih, absent]
  | _ => simp [HasStrayBits, *]

/-- Something is wrong with a text. -/
inductive IsMisspelt (alphabet : Alphabet) (padding : Padding) : List Char → Prop
  /-- A character is neither padding nor one of the sixty-four. -/
  | foreign {text char} (found : char ∈ text) (other : char ≠ '=')
      (unknown : ∀ value < 64, char ≠ alphabet.char value) : IsMisspelt alphabet padding text
  /-- Something else stands behind padding. -/
  | inside {front back char} (found : char ∈ back) (other : char ≠ '=') :
      IsMisspelt alphabet padding (front ++ '=' :: back)
  /-- So much padding may not stand there. -/
  | filled {plain filling} (bare : '=' ∉ plain) (refused : padding.admits plain.length filling = false) :
      IsMisspelt alphabet padding (plain ++ List.replicate filling '=')
  /-- A lone character is left over at the end. -/
  | lone {plain filling} (bare : '=' ∉ plain) (left : plain.length % 4 = 1) :
      IsMisspelt alphabet padding (plain ++ List.replicate filling '=')
  /-- Bits that no byte uses are not zero. -/
  | stray {values filling} (small : ∀ value ∈ values, value < 64) (left : HasStrayBits values) :
      IsMisspelt alphabet padding (values.map alphabet.char ++ List.replicate filling '=')

theorem Alphabet.values?_eq_none {chars : List Char} (absent : alphabet.values? chars = none) :
    ∃ char ∈ chars, ∀ value < 64, char ≠ alphabet.char value := by
  induction chars with
  | nil => cases absent
  | cons char rest ih =>
    cases here : alphabet.value? char with
    | none =>
      refine ⟨char, List.mem_cons_self, fun value small same => ?_⟩
      rw [same, value?_char small] at here
      cases here
    | some value =>
      have later : alphabet.values? rest = none := by
        cases found : alphabet.values? rest with
        | none => rfl
        | some values =>
          rw [values?, here, found] at absent
          cases absent
      obtain ⟨other, member, unknown⟩ := ih later
      exact ⟨other, List.mem_cons_of_mem char member, unknown⟩

/-- A text that is refused has something wrong with it. -/
theorem isMisspelt_of_decode?_eq_none {text : List Char}
    (refused : decode? alphabet padding text = none) : IsMisspelt alphabet padding text := by
  obtain ⟨plain, filling, bare, rfl⟩ := exists_unpadded text
  rw [decode?_padded alphabet padding bare] at refused
  by_cases within : '=' ∈ plain
  · -- What comes before the padding does not end in it, so something stands behind this one.
    obtain ⟨front, back, rfl⟩ := List.append_of_mem within
    cases back using List.reverseRecOn with
    | nil => exact absurd List.getLast?_concat bare
    | append_singleton middle last =>
      have other : last ≠ '=' := by
        rintro rfl
        exact bare (by rw [← List.cons_append, ← List.append_assoc, List.getLast?_concat])
      rw [List.append_assoc, List.cons_append]
      exact .inside (List.mem_append_left _ (List.mem_concat_self ..)) other
  cases values : alphabet.values? plain with
  | none =>
    obtain ⟨char, member, unknown⟩ := Alphabet.values?_eq_none values
    exact .foreign (List.mem_append_left _ member) (fun same => within (same ▸ member)) unknown
  | some sextets =>
    obtain ⟨small, rfl⟩ := Alphabet.values?_eq_some_iff.mp values
    split at refused
    · rw [values, Option.bind_some] at refused
      rcases bytesOfSextets?_eq_none_iff.mp refused with lone | stray
      · exact .lone within (by rw [List.length_map, lone])
      · exact .stray small stray
    · next refusing => exact .filled within (Bool.eq_false_iff.mpr refusing)

/-- Behind padding there is only padding, when none stands before it. -/
theorem eq_filling_of_append_eq {plain front back : List Char} {filling : Nat}
    (without : '=' ∉ plain) (same : front ++ '=' :: back = plain ++ List.replicate filling '=') :
    ∀ char ∈ back, char = '=' := by
  intro char found
  rcases List.append_eq_append_iff.mp same with ⟨middle, rfl, behind⟩ | ⟨middle, _, behind⟩
  · cases middle with
    | nil => exact List.eq_of_mem_replicate (behind ▸ List.mem_cons_of_mem '=' found)
    | cons first rest =>
      cases behind
      exact absurd (List.mem_append_right front List.mem_cons_self) without
  · refine List.eq_of_mem_replicate (behind ▸ List.mem_append_right middle ?_)
    exact List.mem_cons_of_mem '=' found

/-- A text with something wrong is refused. -/
theorem IsMisspelt.decode?_eq_none {text : List Char} (wrong : IsMisspelt alphabet padding text) :
    decode? alphabet padding text = none := by
  have bare {plain : List Char} (without : '=' ∉ plain) : plain.getLast? ≠ some '=' :=
    fun last => without (List.mem_of_getLast? last)
  cases wrong with
  | foreign found other unknown =>
    rw [Option.eq_none_iff_forall_ne_some]
    intro bytes read
    obtain ⟨plain, filling, ⟨values, small, rfl, _⟩, _, rfl⟩ := decode?_eq_some_iff.mp read
    rcases List.mem_append.mp found with found | found
    · obtain ⟨value, member, rfl⟩ := List.mem_map.mp found
      exact unknown value (small value member) rfl
    · exact other (List.eq_of_mem_replicate found)
  | inside found other =>
    rw [Option.eq_none_iff_forall_ne_some]
    intro bytes read
    obtain ⟨plain, filling, ⟨values, small, rfl, _⟩, _, same⟩ := decode?_eq_some_iff.mp read
    exact other (eq_filling_of_append_eq (Alphabet.filling_not_mem_map_char small) same _ found)
  | filled without refused =>
    rw [decode?_padded alphabet padding (bare without), refused, if_neg Bool.false_ne_true]
  | lone without left =>
    rw [decode?_padded alphabet padding (bare without), ite_eq_right_iff]
    intro _
    rw [Option.bind_eq_none_iff]
    intro sextets values
    obtain ⟨_, rfl⟩ := Alphabet.values?_eq_some_iff.mp values
    rw [List.length_map] at left
    exact bytesOfSextets?_eq_none_iff.mpr (.inl left)
  | stray small left =>
    rw [decode?_padded alphabet padding (bare (Alphabet.filling_not_mem_map_char small)),
      Alphabet.values?_map_char small, Option.bind_some,
      bytesOfSextets?_eq_none_iff.mpr (.inr left), ite_self]

/-- **The texts that are refused** are the misspelt ones. -/
theorem decode?_eq_none_iff {text : List Char} :
    decode? alphabet padding text = none ↔ IsMisspelt alphabet padding text :=
  ⟨isMisspelt_of_decode?_eq_none, IsMisspelt.decode?_eq_none⟩

end Base64

end SignedPurchase
