import SignedPurchase.Proofs.Text.Utf8
import SignedPurchase.Url.Escape

/-
**Escapes that are opened again.**

Who receives an address opens its escapes: a percent sign before two hexadecimal digits stands, with
them, for a byte. Since a percent sign is not escaped itself when a path is read, opening the escapes of
a path gives what opening them in the original would have given, which is the original only if it holds
no escape.

* `Escape.opened` opens the escapes among bytes, `Escape.holdsEscape` looks for one;
* `Escape.opened_eq_self_iff`: opening changes nothing exactly when there is no escape;
* `Escape.opened_path`: a path is opened to what the original is opened to.
-/

namespace SignedPurchase

namespace Escape

/-- The byte that two hexadecimal digits spell. -/
def spelled? (high low : UInt8) : Option UInt8 :=
  match Hex.value? high, Hex.value? low with
  | some first, some second => some (UInt8.ofNat (first * 16 + second))
  | _, _ => none

/-- Opens the escapes: a percent sign before two hexadecimal digits stands, with them, for a byte. -/
def opened : Bytes → Bytes
  | 0x25 :: high :: low :: rest =>
    match spelled? high low with
    | some byte => byte :: opened rest
    | none => 0x25 :: opened (high :: low :: rest)
  | byte :: rest => byte :: opened rest
  | [] => []

/-- Whether there is a percent sign before two hexadecimal digits. -/
def holdsEscape : Bytes → Bool
  | 0x25 :: high :: low :: rest =>
    (spelled? high low).isSome || holdsEscape (high :: low :: rest)
  | _ :: rest => holdsEscape rest
  | [] => false

/-! ### Opening -/

theorem length_opened_le (bytes : Bytes) : (opened bytes).length ≤ bytes.length := by
  fun_induction opened bytes with
  | case1 high low rest byte spelled ih => 
    simp only [List.length_cons]
    omega
  | case2 high low rest unspelled ih => simpa using ih
  | case3 byte rest other ih => simpa using ih
  | case4 => exact Nat.le_refl _

/-- **Opening changes nothing exactly when there is no escape.** -/
theorem opened_eq_self_iff (bytes : Bytes) : opened bytes = bytes ↔ holdsEscape bytes = false := by
  fun_induction opened bytes with
  | case1 high low rest byte spelled ih =>
    have shorter := length_opened_le rest
    rw [holdsEscape, spelled]
    refine ⟨?_, nofun⟩
    intro same
    have lengths := congrArg List.length same
    simp only [List.length_cons] at lengths
    omega
  | case2 high low rest unspelled ih =>
    rw [holdsEscape, unspelled, List.cons.injEq]
    simpa using ih
  | case3 byte rest other ih =>
    rw [holdsEscape, List.cons.injEq]
    · simpa using ih
    · exact other
  | case4 => exact ⟨fun _ => rfl, fun _ => rfl⟩

/-- Two hexadecimal digits do not stand at the front. -/
def Unpaired (bytes : Bytes) : Prop :=
  ∀ high low rest, bytes = high :: low :: rest → spelled? high low = none

/-- A percent sign that no two digits follow stands for itself. -/
theorem opened_percent {rest : Bytes} (unpaired : Unpaired rest) :
    opened (0x25 :: rest) = 0x25 :: opened rest := by
  match rest, unpaired with
  | [], _ => rfl
  | [byte], _ => rfl
  | high :: low :: later, unpaired => rw [opened, unpaired high low later rfl]

theorem opened_of_ne {byte : UInt8} (other : byte ≠ 0x25) (rest : Bytes) :
    opened (byte :: rest) = byte :: opened rest := by
  rw [opened]
  exact fun high low later same _ => other same

theorem toNat_of_isGraphic {char : Char} (graphic : isGraphic char = true) :
    33 ≤ char.toNat ∧ char.toNat ≤ 126 := by
  simp only [isGraphic, Bool.and_eq_true, decide_eq_true_eq] at graphic
  exact graphic

/-! ### Paths -/

/-- How a byte is escaped. -/
def escapedByte (byte : UInt8) : Bytes :=
  [0x25, UInt8.ofNat (Hex.digit Hex.capitalDigits (byte.toNat / 16)).toNat,
    UInt8.ofNat (Hex.digit Hex.capitalDigits (byte.toNat % 16)).toNat]

/-- Whether a byte stands for itself in a path. -/
def isKeptInPath (byte : UInt8) : Bool :=
  byte.toNat < 128 && isPlainInPath (Char.ofNat byte.toNat)

/-- How a byte is written in a path. -/
def pathByte (byte : UInt8) : Bytes :=
  if isKeptInPath byte then [byte] else escapedByte byte

theorem flatMap_byte (value : UInt8) :
    (byte value).flatMap String.utf8EncodeChar = escapedByte value := by
  have each : ∀ number < 16,
      String.utf8EncodeChar (Hex.digit Hex.capitalDigits number) =
        [UInt8.ofNat (Hex.digit Hex.capitalDigits number).toNat] := by decide
  have size := value.toNat_lt
  rw [byte, List.flatMap_cons, List.flatMap_cons, List.flatMap_cons, List.flatMap_nil,
    each _ (by omega), each _ (by omega)]
  rfl

theorem spelled?_escapedByte (value : UInt8) : ∃ high low,
    escapedByte value = [0x25, high, low] ∧ spelled? high low = some value := by
  have each : ∀ number < 16,
      Hex.value? (UInt8.ofNat (Hex.digit Hex.capitalDigits number).toNat) = some number := by decide
  have size := value.toNat_lt
  refine ⟨_, _, rfl, ?_⟩
  rw [spelled?, each _ (by omega), each _ (by omega)]
  simp only [Option.some.injEq]
  rw [← UInt8.toNat_inj, UInt8.toNat_ofNat']
  omega

theorem flatMap_byBytes (char : Char) :
    (byBytes char).flatMap String.utf8EncodeChar =
      (String.utf8EncodeChar char).flatMap escapedByte := by
  have bytes : Utf8.encode char.toString = String.utf8EncodeChar char := by
    have single : char.toString = String.ofList [char] := by
      rw [Char.toString_eq_singleton]
      exact String.singleton_eq_ofList
    rw [single, Utf8.encode_ofList, List.flatMap_singleton]
  rw [byBytes, bytes, List.flatMap_assoc]
  simp only [flatMap_byte]

/-- A path is written byte by byte. -/
theorem flatMap_path (text : List Char) :
    (path text).flatMap String.utf8EncodeChar =
      (text.flatMap String.utf8EncodeChar).flatMap pathByte := by
  rw [path, List.flatMap_assoc, List.flatMap_assoc]
  congr 1
  funext char
  have ascii : char.toNat < 128 →
      isKeptInPath (UInt8.ofNat char.toNat) = isPlainInPath char := by
    intro small
    rw [isKeptInPath, UInt8.toNat_ofNat', Nat.mod_eq_of_lt (by omega), Char.ofNat_toNat,
      decide_eq_true small, Bool.true_and]
  by_cases plain : isPlainInPath char = true
  · have bounds := toNat_of_isGraphic (Bool.and_eq_true_iff.mp plain).1
    rw [if_pos plain, List.flatMap_singleton, Utf8.utf8EncodeChar_of_lt (by omega),
      List.flatMap_singleton, pathByte, ascii (by omega), if_pos plain]
  · rw [if_neg plain, flatMap_byBytes]
    refine List.flatMap_congr fun byte member => ?_
    have escaped : ¬ isKeptInPath byte = true := by
      by_cases small : char.toNat < 128
      · rw [Utf8.utf8EncodeChar_of_lt small, List.mem_singleton] at member
        rw [member, ascii small]
        exact plain
      · have beyond := Utf8.le_of_mem_utf8EncodeChar (Nat.le_of_not_lt small) byte member
        rw [isKeptInPath, decide_eq_false (Nat.not_lt.mpr beyond), Bool.false_and]
        exact Bool.false_ne_true
    rw [pathByte, if_neg escaped]

theorem spelled?_eq_some_iff {high low value : UInt8} :
    spelled? high low = some value ↔ ∃ first second, Hex.value? high = some first ∧
      Hex.value? low = some second ∧ value = UInt8.ofNat (first * 16 + second) := by
  rw [spelled?]
  cases Hex.value? high with
  | none => simp
  | some first =>
    cases Hex.value? low with
    | none => simp
    | some second => simp [eq_comm]

/-- Digits stand for themselves. -/
theorem pathByte_of_value? {byte : UInt8} {value : Nat} (digit : Hex.value? byte = some value) :
    pathByte byte = [byte] := by
  have each : ∀ number < 256, (Hex.value? (UInt8.ofNat number)).isSome →
      isKeptInPath (UInt8.ofNat number) = true := by decide +kernel
  have kept := each byte.toNat byte.toNat_lt
  rw [UInt8.ofNat_toNat, digit] at kept
  exact if_pos (kept rfl)

theorem pathByte_percent : pathByte 0x25 = [0x25] := by decide

/-- A byte is written as itself or escaped. -/
theorem pathByte_cases (byte : UInt8) :
    pathByte byte = [byte] ∨ pathByte byte = escapedByte byte := by
  unfold pathByte
  split
  · exact .inl rfl
  · exact .inr rfl

theorem spelled?_percent_left (low : UInt8) : spelled? 0x25 low = none := rfl

theorem spelled?_percent_right (high : UInt8) : spelled? high 0x25 = none := by
  rw [spelled?]
  cases Hex.value? high <;> rfl

/-- No escape comes about where a path is written. -/
theorem Unpaired.flatMap_pathByte {bytes : Bytes} (unpaired : Unpaired bytes) :
    Unpaired (bytes.flatMap pathByte) := by
  intro high low rest same
  cases bytes with
  | nil => cases same
  | cons first others =>
    rw [List.flatMap_cons] at same
    rcases pathByte_cases first with kept | escaped
    · rw [kept, List.singleton_append, List.cons.injEq] at same
      obtain ⟨rfl, same⟩ := same
      cases others with
      | nil => cases same
      | cons second later =>
        rw [List.flatMap_cons] at same
        rcases pathByte_cases second with kept | escaped
        · rw [kept, List.singleton_append, List.cons.injEq] at same
          obtain ⟨rfl, _⟩ := same
          exact unpaired _ _ _ rfl
        · rw [escaped] at same
          obtain ⟨rfl, _⟩ := List.cons.inj same
          exact spelled?_percent_right _
    · rw [escaped] at same
      obtain ⟨rfl, _⟩ := List.cons.inj same
      exact spelled?_percent_left _

/-- **What is written in a path is opened to what the original is opened to.** -/
theorem opened_flatMap_pathByte (bytes : Bytes) :
    opened (bytes.flatMap pathByte) = opened bytes := by
  fun_induction opened bytes with
  | case1 high low rest byte spelled ih =>
    obtain ⟨first, second, digit, digit', _⟩ := spelled?_eq_some_iff.mp spelled
    rw [List.flatMap_cons, List.flatMap_cons, List.flatMap_cons, pathByte_percent,
      pathByte_of_value? digit, pathByte_of_value? digit']
    show opened (0x25 :: high :: low :: rest.flatMap pathByte) = _
    rw [opened, spelled, ih]
  | case2 high low rest unspelled ih =>
    have unpaired : Unpaired (high :: low :: rest) := by
      rintro _ _ _ ⟨⟩
      exact unspelled
    rw [List.flatMap_cons, pathByte_percent, List.singleton_append,
      opened_percent unpaired.flatMap_pathByte, ih]
  | case3 byte rest other ih =>
    rw [List.flatMap_cons]
    by_cases percent : byte = 0x25
    · have unpaired : Unpaired rest := fun high low later same =>
        (other high low later percent same).elim
      rw [percent, pathByte_percent, List.singleton_append,
        opened_percent unpaired.flatMap_pathByte, ih]
    · rcases pathByte_cases byte with kept | escaped
      · rw [kept, List.singleton_append, opened_of_ne percent, ih]
      · obtain ⟨high, low, digits, spelled⟩ := spelled?_escapedByte byte
        rw [escaped, digits]
        show opened (0x25 :: high :: low :: rest.flatMap pathByte) = _
        rw [opened, spelled, ih]
  | case4 => rfl

/-- **A path is opened to what the original is opened to.** -/
theorem opened_path (text : List Char) :
    opened (Utf8.encode (String.ofList (path text))) =
      opened (Utf8.encode (String.ofList text)) := by
  rw [Utf8.encode_ofList, Utf8.encode_ofList, flatMap_path, opened_flatMap_pathByte]

end Escape

end SignedPurchase
