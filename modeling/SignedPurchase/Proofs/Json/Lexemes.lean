import SignedPurchase.Json.Tree
import SignedPurchase.Proofs.Text.Count
import SignedPurchase.Proofs.Text.Utf8

/-
**Texts and integers among the lexemes.**

A text between quotation marks and an integer in decimal digits are cut out of a text as the lexemes
that they were written for.

* `Lexeme.next?_writeText`: whatever characters a text holds, none is lost by its escapes;
* `Lexeme.next?_integerText`: an integer of at most sixty-four bits is read as itself, as long as what
  follows does not continue it;
* `Severs` says what does not continue a number.
-/

namespace SignedPurchase

namespace Json

variable {rest : Bytes}

/-! ### Texts -/

/-- The piece as which a byte of a text is read. Controls that have no letter of their own are written
by their numbers. -/
def Piece.ofByte (byte : UInt8) : Piece :=
  if byte < 0x20 ∧ byte ∉ [0x08, 0x09, 0x0A, 0x0C, 0x0D] then .unit byte.toNat else .byte byte

/-- The number of a control is given by its two digits. -/
theorem unit?_hexDigit {byte : UInt8} (control : byte < 0x20) :
    unit? 0x30 0x30 (Tree.hexDigit (byte.toNat / 16)) (Tree.hexDigit (byte.toNat % 16)) =
      some byte.toNat := by
  have each : ∀ value < 32,
      unit? 0x30 0x30 (Tree.hexDigit (value / 16)) (Tree.hexDigit (value % 16)) = some value := by
    decide
  exact each byte.toNat (UInt8.lt_iff_toNat_lt.mp control)

/-- A byte that stands for itself is a piece. -/
theorem pieces?_of_plain {byte : UInt8} (quote : byte ≠ 0x22) (slash : byte ≠ 0x5C)
    (printed : ¬ byte < 0x20) :
    pieces? (byte :: rest) =
      (pieces? rest).map fun found => (.byte byte :: found.1, found.2) := by
  rw [pieces?.eq_def]
  simp only [if_neg quote, if_neg slash, if_neg printed]
  cases pieces? rest <;> rfl

/-- A letter after a backslash is a piece. -/
theorem pieces?_of_letter {letter value : UInt8} (named : letter ≠ 0x75)
    (stands : escaped? letter = some value) :
    pieces? (0x5C :: letter :: rest) =
      (pieces? rest).map fun found => (.byte value :: found.1, found.2) := by
  rw [pieces?.eq_def]
  dsimp only
  rw [if_neg (by decide), if_pos rfl, if_neg named, stands]
  cases pieces? rest <;> rfl

/-- A number after a backslash is a piece. -/
theorem pieces?_of_unit {a b c d : UInt8} {value : Nat} (stands : unit? a b c d = some value) :
    pieces? (0x5C :: 0x75 :: a :: b :: c :: d :: rest) =
      (pieces? rest).map fun found => (.unit value :: found.1, found.2) := by
  rw [pieces?.eq_def]
  dsimp only
  rw [if_neg (by decide), if_pos rfl, if_pos rfl, stands]
  cases pieces? rest <;> rfl

/-- **The escape of a byte is read as one piece.** -/
theorem pieces?_escape (byte : UInt8) (rest : Bytes) :
    pieces? (Tree.escape byte ++ rest) =
      (pieces? rest).map fun found => (Piece.ofByte byte :: found.1, found.2) := by
  have lettered : ∀ {letter : UInt8}, letter ≠ 0x75 → escaped? letter = some byte →
      Piece.ofByte byte = .byte byte →
      pieces? ([0x5C, letter] ++ rest) =
        (pieces? rest).map fun found => (Piece.ofByte byte :: found.1, found.2) := by
    intro letter named stands itself
    rw [itself]
    exact pieces?_of_letter named stands
  unfold Tree.escape
  -- The escapes with letters of their own, in their order.
  by_cases quote : byte = 0x22
  · subst quote
    exact lettered (by decide) (by decide) (by decide)
  by_cases slash : byte = 0x5C
  · subst slash
    exact lettered (by decide) (by decide) (by decide)
  by_cases backspace : byte = 0x08
  · subst backspace
    exact lettered (by decide) (by decide) (by decide)
  by_cases formFeed : byte = 0x0C
  · subst formFeed
    exact lettered (by decide) (by decide) (by decide)
  by_cases lineFeed : byte = 0x0A
  · subst lineFeed
    exact lettered (by decide) (by decide) (by decide)
  by_cases carriageReturn : byte = 0x0D
  · subst carriageReturn
    exact lettered (by decide) (by decide) (by decide)
  by_cases tabulator : byte = 0x09
  · subst tabulator
    exact lettered (by decide) (by decide) (by decide)
  rw [if_neg quote, if_neg slash, if_neg backspace, if_neg formFeed, if_neg lineFeed,
    if_neg carriageReturn, if_neg tabulator]
  -- What is left is written by its number or stands for itself.
  by_cases control : byte < 0x20
  · have numbered : Piece.ofByte byte = .unit byte.toNat :=
      if_pos ⟨control, by simp [backspace, formFeed, lineFeed, carriageReturn, tabulator]⟩
    rw [if_pos control, numbered]
    exact pieces?_of_unit (unit?_hexDigit control)
  · have itself : Piece.ofByte byte = .byte byte := if_neg fun numbered => control numbered.1
    rw [if_neg control, itself]
    exact pieces?_of_plain quote slash control

/-- The pieces of an escaped text are those of its bytes. -/
theorem pieces?_flatMap_escape (bytes rest : Bytes) :
    pieces? (bytes.flatMap Tree.escape ++ 0x22 :: rest) = some (bytes.map Piece.ofByte, rest) := by
  induction bytes with
  | nil =>
    rw [List.flatMap_nil, List.nil_append, pieces?.eq_def]
    rfl
  | cons byte later ih =>
    rw [List.flatMap_cons, List.append_assoc, pieces?_escape, ih]
    rfl

/-- A control stands for the character of its number. -/
theorem bytesOfCode_control {byte : UInt8} (control : byte < 0x20) :
    bytesOfCode byte.toNat = [byte] := by
  have each : ∀ value < 32, bytesOfCode value = [UInt8.ofNat value] := by decide
  rw [each byte.toNat (UInt8.lt_iff_toNat_lt.mp control), UInt8.ofNat_toNat]

/-- The pieces of bytes are joined to the bytes. -/
theorem joined?_map_ofByte (bytes : Bytes) : joined? (bytes.map Piece.ofByte) = some bytes := by
  induction bytes with
  | nil => rfl
  | cons byte later ih =>
    rw [List.map_cons, Piece.ofByte]
    split
    · next numbered =>
      have small : byte.toNat < 32 := UInt8.lt_iff_toNat_lt.mp numbered.1
      have leading : isLeading byte.toNat = false := by simp [isLeading]; omega
      have trailing : isTrailing byte.toNat = false := by simp [isTrailing]; omega
      rw [joined?.eq_def]
      dsimp only
      rw [leading, trailing, ih, bytesOfCode_control numbered.1]
      rfl
    · rw [joined?.eq_def]
      dsimp only
      rw [ih]

/-- **A text that was written is read back**, whatever characters it holds. -/
theorem Lexeme.next?_writeText (text : String) (rest : Bytes) :
    ∃ tail, Tree.writeText text ++ rest = 0x22 :: tail ∧
      Lexeme.next? 0x22 tail = some (.text (some text), rest) := by
  refine ⟨(Utf8.encode text).flatMap Tree.escape ++ 0x22 :: rest, ?_, ?_⟩
  · rw [Tree.writeText, List.cons_append, List.append_assoc, List.singleton_append]
  · have spelled : textOf? ((Utf8.encode text).map Piece.ofByte) = some text := by
      rw [textOf?, joined?_map_ofByte]
      exact Utf8.decode?_encode text
    have found := pieces?_flatMap_escape (Utf8.encode text) rest
    unfold Lexeme.next?
    rw [found]
    show some (Lexeme.text (textOf? _), rest) = _
    rw [spelled]

/-! ### Integers -/

/-- What does not go on with a number that stands before it. -/
def Severs (rest : Bytes) : Prop :=
  ∀ byte ∈ rest.head?, digit? byte = none ∧ byte ≠ 0x2E ∧ byte ≠ 0x65 ∧ byte ≠ 0x45

theorem severs_nil : Severs [] := by
  intro byte none
  cases none

/-- What ends a value severs it from all that comes after. -/
theorem severs_cons {byte : UInt8} (ends : byte = 0x2C ∨ byte = 0x5D ∨ byte = 0x7D) (rest : Bytes) :
    Severs (byte :: rest) := by
  intro other same
  cases same
  rcases ends with rfl | rfl | rfl <;> decide

/-- Without a point there are no decimals. -/
theorem decimals?_of_ne {byte : UInt8} (other : byte ≠ 0x2E) (tail : Bytes) :
    decimals? (byte :: tail) = some (none, byte :: tail) := by
  rw [decimals?]
  rintro rest same
  cases same
  exact other rfl

/-- No part of a numeral begins where nothing goes on with a number. -/
theorem Severs.unsigned_parts (severs : Severs rest) :
    digits rest = ([], rest) ∧ decimals? rest = some (none, rest) ∧
      exponent? rest = some (none, rest) := by
  cases rest with
  | nil => exact ⟨rfl, rfl, rfl⟩
  | cons byte tail =>
    obtain ⟨undigit, point, small, great⟩ := severs byte rfl
    refine ⟨?_, ?_, ?_⟩
    · rw [digits, undigit]
    · exact decimals?_of_ne point tail
    · simp [exponent?, small, great]

/-- The value of a decimal digit among the characters. -/
def valueOfDigit (char : Char) : Nat :=
  char.toNat - 48

theorem isDigit_bounds {char : Char} (isDigit : char.isDigit = true) :
    48 ≤ char.toNat ∧ char.toNat ≤ 57 := by
  simp only [Char.isDigit, Bool.and_eq_true, decide_eq_true_eq] at isDigit
  exact ⟨UInt32.le_iff_toNat_le.mp isDigit.1, UInt32.le_iff_toNat_le.mp isDigit.2⟩

/-- A decimal digit takes one byte, which has its value. -/
theorem digit?_of_isDigit {char : Char} (isDigit : char.isDigit = true) :
    String.utf8EncodeChar char = [UInt8.ofNat char.toNat] ∧
      0x30 ≤ UInt8.ofNat char.toNat ∧ UInt8.ofNat char.toNat ≤ 0x39 ∧
      digit? (UInt8.ofNat char.toNat) = some (valueOfDigit char) := by
  obtain ⟨low, high⟩ := isDigit_bounds isDigit
  have each : ∀ value < 58, 48 ≤ value →
      0x30 ≤ UInt8.ofNat value ∧ UInt8.ofNat value ≤ 0x39 ∧
        digit? (UInt8.ofNat value) = some (value - 48) := by
    decide
  exact ⟨Utf8.utf8EncodeChar_of_lt (by omega), each char.toNat (by omega) low⟩

/-- Digits are read as far as they go. -/
theorem digits_append {chars : List Char} (decimal : ∀ char ∈ chars, char.isDigit = true)
    (severs : Severs rest) :
    digits (chars.flatMap String.utf8EncodeChar ++ rest) = (chars.map valueOfDigit, rest) := by
  induction chars with
  | nil => exact severs.unsigned_parts.1
  | cons char later ih =>
    obtain ⟨single, _, _, stands⟩ := digit?_of_isDigit (decimal char List.mem_cons_self)
    rw [List.flatMap_cons, single, List.append_assoc, List.singleton_append, digits, stands,
      ih fun char member => decimal char (List.mem_cons_of_mem _ member)]
    rfl

/-- Digits that stay within the limit are gathered to the end. -/
theorem gather_of_le {limit value : Nat} {chars : List Char}
    (within : Nat.ofDigitChars 10 chars value ≤ limit) :
    gather limit value (chars.map valueOfDigit) = (Nat.ofDigitChars 10 chars value, []) := by
  induction chars generalizing value with
  | nil => rfl
  | cons char later ih =>
    have same : value * 10 + valueOfDigit char = 10 * value + (char.toNat - '0'.toNat) := by
      rw [Nat.mul_comm value 10]
      rfl
    rw [Nat.ofDigitChars_cons] at within ⊢
    have fits := Nat.le_trans (Count.le_ofDigitChars later _) within
    rw [List.map_cons, gather, same, if_pos fits]
    exact ih within

/-- The number of an integer without point and exponent. -/
theorem number?_toDigits (negative : Bool) {value : Nat} (within : value ≤ Numeral.largestWord) :
    Numeral.number? ⟨negative, (Nat.toDigits 10 value).map valueOfDigit, none, none⟩ =
      some (Numeral.wholeNumber negative value) := by
  have gathered : gather Numeral.largestWord 0 ((Nat.toDigits 10 value).map valueOfDigit) =
      (value, []) := by
    have whole : Nat.ofDigitChars 10 (Nat.toDigits 10 value) 0 = value :=
      Nat.ofDigitChars_ten_toDigits
    rw [gather_of_le (by rw [whole]; exact within), whole]
  rw [Numeral.number?, gathered]
  rfl

/-- Only zero begins with a zero. -/
theorem head?_toDigits {value : Nat} (positive : 0 < value) :
    (Nat.toDigits 10 value).head? ≠ some '0' := by
  induction value using Nat.strongRecOn with
  | ind value ih =>
    by_cases single : value < 10
    · have each : ∀ value < 10, 0 < value → Nat.digitChar value ≠ '0' := by decide
      rw [Nat.toDigits_of_lt_base single, List.head?_cons]
      exact fun same => each value single positive (Option.some.inj same)
    · rw [Nat.toDigits_of_base_le (by decide) (by omega),
        List.head?_append_of_ne_nil _ Nat.toDigits_ne_nil]
      exact ih (value / 10) (by omega) (by omega)

/-- The digits of an integer stand before what is no digit, and no zero stands in front of others. -/
theorem whole?_toDigits (value : Nat) (severs : Severs rest) :
    whole? ((Nat.toDigits 10 value).flatMap String.utf8EncodeChar ++ rest) =
      some ((Nat.toDigits 10 value).map valueOfDigit, rest) := by
  have decimal : ∀ char ∈ Nat.toDigits 10 value, char.isDigit = true :=
    fun char member => Nat.isDigit_of_mem_toDigits (by decide) (by decide) member
  rw [whole?, digits_append decimal severs]
  rcases Nat.eq_zero_or_pos value with rfl | positive
  · rfl
  · have front := head?_toDigits positive
    cases written : Nat.toDigits 10 value with
    | nil => exact absurd written Nat.toDigits_ne_nil
    | cons char later =>
      rw [written] at front decimal
      have other : char ≠ '0' := fun same => front (congrArg some same)
      have nonzero : valueOfDigit char ≠ 0 := by
        intro zero
        obtain ⟨low, _⟩ := isDigit_bounds (decimal char List.mem_cons_self)
        have least : char.toNat = 48 := by
          unfold valueOfDigit at zero
          omega
        exact other (Char.toNat_inj.mp least)
      obtain ⟨less, more⟩ := Nat.exists_eq_succ_of_ne_zero nonzero
      rw [List.map_cons, more]
      rfl

/-- The digits of an integer are read as its numeral. -/
theorem unsigned?_toDigits (negative : Bool) (value : Nat) (severs : Severs rest) :
    unsigned? negative ((Nat.toDigits 10 value).flatMap String.utf8EncodeChar ++ rest) =
      some (⟨negative, (Nat.toDigits 10 value).map valueOfDigit, none, none⟩, rest) := by
  obtain ⟨_, decimals, exponent⟩ := severs.unsigned_parts
  rw [unsigned?, whole?_toDigits value severs]
  dsimp only
  rw [decimals]
  dsimp only
  rw [exponent]

/-- A digit begins a numeral. -/
theorem Lexeme.next?_of_digit {byte : UInt8} (low : 0x30 ≤ byte) (high : byte ≤ 0x39)
    (rest : Bytes) :
    isBlank byte = false ∧
      Lexeme.next? byte rest =
        match unsigned? false (byte :: rest) with
        | some (numeral, rest) => some (.number numeral.number?, rest)
        | none => none := by
  have other : ∀ {mark : UInt8}, mark < 0x30 ∨ 0x39 < mark → byte ≠ mark := by
    rintro mark apart rfl
    rcases apart with less | greater
    · exact absurd low (UInt8.not_le.mpr less)
    · exact absurd high (UInt8.not_le.mpr greater)
  refine ⟨?_, ?_⟩
  · have blanks : byte ≠ 0x20 ∧ byte ≠ 0x09 ∧ byte ≠ 0x0A ∧ byte ≠ 0x0D :=
      ⟨other (by decide), other (by decide), other (by decide), other (by decide)⟩
    simp [isBlank, blanks]
  · unfold Lexeme.next?
    rw [if_neg (other (by decide)), if_neg (other (by decide)), if_neg (other (by decide)),
      if_neg (other (by decide)), if_neg (other (by decide)), if_neg (other (by decide)),
      if_neg (other (by decide)), if_neg (other (by decide)), if_neg (other (by decide)),
      if_neg (other (by decide))]
    have positive : byte ≠ 0x2D := other (by decide)
    exact congrArg (fun read : Option (Numeral × Bytes) =>
      match read with
      | some (numeral, rest) => some (Lexeme.number numeral.number?, rest)
      | none => none) (if_neg positive)

/-- **An integer that was written is read back**, as long as what follows does not continue it. -/
theorem Lexeme.next?_integerText {value : Int} (low : Int64.minValue.toInt ≤ value)
    (high : value < UInt64.size) (severs : Severs rest) :
    ∃ first tail, Utf8.encode (integerText value) ++ rest = first :: tail ∧
      isBlank first = false ∧
      Lexeme.next? first tail = some (.number (some (.integer value)), rest) := by
  have least : Int64.minValue.toInt = -0x8000000000000000 := by decide
  rw [least] at low
  unfold integerText
  by_cases negative : value < 0
  · have within : value.natAbs ≤ Numeral.largestWord := by
      show _ ≤ 0xFFFFFFFFFFFFFFFF
      omega
    have whole : Numeral.wholeNumber true value.natAbs = .integer value := by
      have some : ¬ (value.natAbs = 0 || 0x8000000000000000 < value.natAbs) = true := by
        simp
        omega
      rw [Numeral.wholeNumber, if_pos rfl, if_neg some]
      congr 1
      omega
    refine ⟨0x2D, (Nat.toDigits 10 value.natAbs).flatMap String.utf8EncodeChar ++ rest, ?_, rfl, ?_⟩
    · rw [if_pos negative, Utf8.encode_ofList, List.flatMap_cons, List.append_assoc]
      rfl
    · have read := unsigned?_toDigits true value.natAbs severs
      show (match unsigned? true _ with
        | some (numeral, rest) => some (Lexeme.number numeral.number?, rest)
        | none => none) = _
      rw [read]
      show some (Lexeme.number (Numeral.number? _), rest) = _
      rw [number?_toDigits true within, whole]
  · have within : value.toNat ≤ Numeral.largestWord := by
      have size : UInt64.size = 0x10000000000000000 := rfl
      show _ ≤ 0xFFFFFFFFFFFFFFFF
      omega
    have whole : Numeral.wholeNumber false value.toNat = .integer value := by
      rw [Numeral.wholeNumber, if_neg Bool.false_ne_true]
      congr 1
      omega
    have read := unsigned?_toDigits false value.toNat severs
    rw [if_neg negative, Utf8.encode_ofList]
    cases written : Nat.toDigits 10 value.toNat with
    | nil => exact absurd written Nat.toDigits_ne_nil
    | cons char later =>
      have member : char ∈ Nat.toDigits 10 value.toNat := by
        rw [written]
        exact List.mem_cons_self
      obtain ⟨single, digitLow, digitHigh, _⟩ :=
        digit?_of_isDigit (Nat.isDigit_of_mem_toDigits (by decide) (by decide) member)
      obtain ⟨unblank, next⟩ :=
        Lexeme.next?_of_digit digitLow digitHigh (later.flatMap String.utf8EncodeChar ++ rest)
      have front : (char :: later).flatMap String.utf8EncodeChar ++ rest =
          UInt8.ofNat char.toNat :: (later.flatMap String.utf8EncodeChar ++ rest) := by
        rw [List.flatMap_cons, single]
        rfl
      refine ⟨_, _, front, unblank, ?_⟩
      rw [written, front] at read
      rw [next, read, ← written]
      show some (Lexeme.number (Numeral.number? _), rest) = _
      rw [number?_toDigits false within, whole]

end Json

end SignedPurchase
