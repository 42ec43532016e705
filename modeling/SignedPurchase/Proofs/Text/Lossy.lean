import SignedPurchase.Proofs.Text.Utf8

/-
**Nothing is replaced in a text.**

Bytes are read with a replacement for each piece that is not the encoding of a character. The bytes of
a text have no such piece: each leading byte announces as many bytes as follow it, and the first of
these lies within the bounds that it sets.

* `Utf8.announced?_one`, `announced?_two`, `exists_announced?_three` and `exists_announced?_four`: what
  the leading bytes announce;
* `Utf8.repair_utf8EncodeChar`: a character is kept as it is, whatever follows;
* `Utf8.decodeLossy_encode`: so is a text.
-/

namespace SignedPurchase

namespace Utf8

/-! ### Whole pieces -/

/-- Bytes that are accounted for and kept are copied. -/
theorem repair_append (kept rest : Bytes) :
    repair kept.length true (kept ++ rest) = kept ++ repair 0 true rest := by
  induction kept with
  | nil => rfl
  | cons byte kept ih =>
    rw [List.length_cons, List.cons_append, repair, if_pos rfl, ih]
    rfl

/-- A leading byte with all that it announces is kept. -/
theorem repair_of_whole {lead low high : UInt8} (tail rest : Bytes)
    (announced : announced? lead = some (tail.length, low, high))
    (whole : continuing tail.length low high (tail ++ rest) = tail.length) :
    repair 0 true (lead :: (tail ++ rest)) = lead :: tail ++ repair 0 true rest := by
  rw [repair, announced]
  simp only [whole, if_true, repair_append, List.cons_append]

theorem continuing_zero (low high : UInt8) (rest : Bytes) : continuing 0 low high rest = 0 := by
  rw [continuing]
  nofun

theorem continuing_cons {count : Nat} {low high byte : UInt8} (rest : Bytes)
    (within : low.toNat ≤ byte.toNat ∧ byte.toNat ≤ high.toNat) :
    continuing (count + 1) low high (byte :: rest) = continuing count 0x80 0xBF rest + 1 := by
  rw [continuing, decide_eq_true (UInt8.le_iff_toNat_le.mpr within.1),
    decide_eq_true (UInt8.le_iff_toNat_le.mpr within.2), Bool.and_self, if_pos rfl]

/-- The bytes after the first two are within the usual bounds. -/
theorem continuing_eq_length {low high second : UInt8} (tail rest : Bytes)
    (within : low.toNat ≤ second.toNat ∧ second.toNat ≤ high.toNat)
    (usual : ∀ byte ∈ tail, 0x80 ≤ byte.toNat ∧ byte.toNat ≤ 0xBF) :
    continuing (tail.length + 1) low high (second :: (tail ++ rest)) = tail.length + 1 := by
  induction tail generalizing second low high with
  | nil => rw [continuing_cons _ within, List.length_nil, continuing_zero]
  | cons third tail ih =>
    obtain ⟨here, later⟩ := List.forall_mem_cons.mp usual
    rw [continuing_cons _ within, List.length_cons, List.cons_append]
    exact congrArg (· + 1) (ih here later)

/-! ### What leading bytes announce -/

section Announced

variable (lead : UInt8)

theorem announced?_one (small : lead.toNat < 0x80) : announced? lead = some (0, 0, 0) :=
  if_pos (UInt8.lt_iff_toNat_lt.mpr small)

theorem announced?_two (above : 0xC2 ≤ lead.toNat) (below : lead.toNat < 0xE0) :
    announced? lead = some (1, 0x80, 0xBF) := by
  simp only [announced?, UInt8.lt_iff_toNat_lt, UInt8.reduceToNat]
  rw [if_neg (by omega), if_neg (by omega), if_pos (by omega)]

/-- Of three bytes, the second must be large enough that no shorter encoding would do, and must not make
a surrogate. -/
theorem exists_announced?_three (above : 0xE0 ≤ lead.toNat) (below : lead.toNat < 0xF0) :
    ∃ low high, announced? lead = some (2, low, high) ∧
      ∀ second : UInt8, 0x80 ≤ second.toNat → second.toNat ≤ 0xBF →
        (lead.toNat = 0xE0 → 0xA0 ≤ second.toNat) → (lead.toNat = 0xED → second.toNat ≤ 0x9F) →
        low.toNat ≤ second.toNat ∧ second.toNat ≤ high.toNat := by
  simp only [announced?, UInt8.lt_iff_toNat_lt, ← UInt8.toNat_inj, UInt8.reduceToNat]
  rw [if_neg (by omega), if_neg (by omega), if_neg (by omega)]
  split
  · exact ⟨0xA0, 0xBF, rfl, fun second _ high low _ => ⟨low ‹_›, high⟩⟩
  · split
    · exact ⟨0x80, 0x9F, rfl, fun second low _ _ high => ⟨low, high ‹_›⟩⟩
    · exact ⟨0x80, 0xBF, rfl, fun second low high _ _ => ⟨low, high⟩⟩

/-- Of four bytes, the second must be large enough that no shorter encoding would do, and must not go
beyond the last character. -/
theorem exists_announced?_four (above : 0xF0 ≤ lead.toNat) (below : lead.toNat < 0xF5) :
    ∃ low high, announced? lead = some (3, low, high) ∧
      ∀ second : UInt8, 0x80 ≤ second.toNat → second.toNat ≤ 0xBF →
        (lead.toNat = 0xF0 → 0x90 ≤ second.toNat) → (lead.toNat = 0xF4 → second.toNat ≤ 0x8F) →
        low.toNat ≤ second.toNat ∧ second.toNat ≤ high.toNat := by
  simp only [announced?, UInt8.lt_iff_toNat_lt, ← UInt8.toNat_inj, UInt8.reduceToNat]
  rw [if_neg (by omega), if_neg (by omega), if_neg (by omega), if_neg (by omega), if_neg (by omega),
    if_neg (by omega)]
  split
  · exact ⟨0x90, 0xBF, rfl, fun second _ high low _ => ⟨low ‹_›, high⟩⟩
  · split
    · exact ⟨0x80, 0xBF, rfl, fun second low high _ _ => ⟨low, high⟩⟩
    · exact ⟨0x80, 0x8F, if_pos (by omega), fun second low _ _ high => ⟨low, high (by omega)⟩⟩

end Announced

/-! ### Characters and texts -/

/-- **A character is kept as it is**, whatever follows. -/
theorem repair_utf8EncodeChar (char : Char) (rest : Bytes) :
    repair 0 true (String.utf8EncodeChar char ++ rest) =
      String.utf8EncodeChar char ++ repair 0 true rest := by
  have valid : char.val.toNat < 0xD800 ∨ 0xDFFF < char.val.toNat ∧ char.val.toNat < 0x110000 :=
    char.valid
  rw [String.utf8EncodeChar.eq_1]
  generalize char.val.toNat = code at valid
  have usual : ∀ value : Nat, 0x80 ≤ (UInt8.ofNat (value % 64 + 128)).toNat ∧
      (UInt8.ofNat (value % 64 + 128)).toNat ≤ 0xBF := by
    intro value
    rw [UInt8.toNat_ofNat']
    omega
  split
  · next small =>
    refine repair_of_whole [] rest (announced?_one _ ?_) (continuing_zero _ _ _)
    rw [UInt8.toNat_ofNat']
    omega
  · split
    · refine repair_of_whole [_] rest (announced?_two _ ?_ ?_)
        (continuing_eq_length [] rest (usual code) nofun)
      all_goals
        rw [UInt8.toNat_ofNat']
        omega
    · split
      · obtain ⟨low, high, announced, within⟩ :=
          exists_announced?_three (UInt8.ofNat (code / 4096 % 16 + 224))
            (by rw [UInt8.toNat_ofNat']; omega) (by rw [UInt8.toNat_ofNat']; omega)
        refine repair_of_whole [_, _] rest announced
          (continuing_eq_length [_] rest (within _ (usual _).1 (usual _).2 ?_ ?_) ?_)
        · rw [UInt8.toNat_ofNat', UInt8.toNat_ofNat']
          omega
        · rw [UInt8.toNat_ofNat', UInt8.toNat_ofNat']
          omega
        · simp only [List.forall_mem_singleton]
          exact usual _
      · obtain ⟨low, high, announced, within⟩ :=
          exists_announced?_four (UInt8.ofNat (code / 262144 % 8 + 240))
            (by rw [UInt8.toNat_ofNat']; omega) (by rw [UInt8.toNat_ofNat']; omega)
        refine repair_of_whole [_, _, _] rest announced
          (continuing_eq_length [_, _] rest (within _ (usual _).1 (usual _).2 ?_ ?_) ?_)
        · rw [UInt8.toNat_ofNat', UInt8.toNat_ofNat']
          omega
        · rw [UInt8.toNat_ofNat', UInt8.toNat_ofNat']
          omega
        · simp only [List.forall_mem_cons, List.not_mem_nil, false_imp_iff, implies_true, and_true]
          exact ⟨usual _, usual _⟩

/-- **Nothing is replaced in a text.** -/
theorem decodeLossy_encode (text : String) : decodeLossy (encode text) = text := by
  have kept : ∀ chars : List Char, repair 0 true (chars.flatMap String.utf8EncodeChar) =
      chars.flatMap String.utf8EncodeChar := by
    intro chars
    induction chars with
    | nil => rfl
    | cons char chars ih => rw [List.flatMap_cons, repair_utf8EncodeChar, ih]
  have same : repair 0 true (encode text) = encode text := by
    rw [← String.ofList_toList (s := text), encode_ofList, kept]
  rw [decodeLossy, same, decode?_encode, Option.getD_some]

end Utf8

end SignedPurchase
