import SignedPurchase.Text.Utf8
import SignedPurchase.Text.Hex
import SignedPurchase.Json.Number

/-
**Lexemes.**

A text in bytes is cut into brackets, commas, colons, words, numbers and texts; blanks between them
are dropped. Cutting stops at the first byte at which no lexeme begins, which the last lexeme tells.

* `Lexeme.scan` cuts a text;
* `Lexeme.number` and `Lexeme.text` carry nothing when they are well written but stand for no value:
  a number too large, a text with an unpaired surrogate or bytes that are no characters.
-/

namespace SignedPurchase

namespace Json

/-- The smallest pieces of a text. -/
inductive Lexeme where
  | openList
  | closeList
  | openObject
  | closeObject
  | colon
  | comma
  | null
  | flag (value : Bool)
  | number (value : Option Number)
  | text (value : Option String)
  /-- No lexeme begins here, and nothing follows. -/
  | stray
  deriving DecidableEq, Repr

/-! ### Texts -/

/-- A piece of a text: a byte, or a sixteen-bit unit given by its number. -/
inductive Piece where
  | byte (value : UInt8)
  | unit (value : Nat)
  deriving DecidableEq, Repr

/-- The byte that a one-letter escape stands for. -/
def escaped? (letter : UInt8) : Option UInt8 :=
  if letter = 0x22 then some 0x22
  else if letter = 0x5C then some 0x5C
  else if letter = 0x2F then some 0x2F
  else if letter = 0x62 then some 0x08
  else if letter = 0x66 then some 0x0C
  else if letter = 0x6E then some 0x0A
  else if letter = 0x72 then some 0x0D
  else if letter = 0x74 then some 0x09
  else none

/-- The value of four hexadecimal digits. -/
def unit? (a b c d : UInt8) : Option Nat :=
  match Hex.value? a, Hex.value? b, Hex.value? c, Hex.value? d with
  | some a, some b, some c, some d => some (((a * 16 + b) * 16 + c) * 16 + d)
  | _, _, _, _ => none

/-- The pieces up to the closing quotation mark, and what follows it. -/
def pieces? : Bytes → Option (List Piece × Bytes)
  | [] => none
  | byte :: rest =>
    if byte = 0x22 then some ([], rest)
    else if byte = 0x5C then
      match rest with
      | [] => none
      | letter :: tail =>
        if letter = 0x75 then
          match tail with
          | a :: b :: c :: d :: tail =>
            match unit? a b c d, pieces? tail with
            | some value, some (pieces, after) => some (.unit value :: pieces, after)
            | _, _ => none
          | _ => none
        else
          match escaped? letter, pieces? tail with
          | some value, some (pieces, after) => some (.byte value :: pieces, after)
          | _, _ => none
    else if byte < 0x20 then none
    else
      match pieces? rest with
      | some (pieces, after) => some (.byte byte :: pieces, after)
      | none => none

/-- The first unit of a pair. -/
def isLeading (unit : Nat) : Bool :=
  0xD800 ≤ unit && unit ≤ 0xDBFF

/-- The second unit of a pair. -/
def isTrailing (unit : Nat) : Bool :=
  0xDC00 ≤ unit && unit ≤ 0xDFFF

/-- The bytes of a character given by its number. -/
def bytesOfCode (code : Nat) : Bytes :=
  Utf8.encode (String.singleton (Char.ofNat code))

/-- The bytes of the pieces, when every unit of a pair stands beside the other. -/
def joined? : List Piece → Option Bytes
  | [] => some []
  | .byte value :: rest =>
    match joined? rest with
    | some bytes => some (value :: bytes)
    | none => none
  | .unit value :: rest =>
    if isLeading value then
      match rest with
      | .unit second :: rest =>
        if isTrailing second then
          match joined? rest with
          | some bytes =>
            some (bytesOfCode ((value - 0xD800) * 0x400 + (second - 0xDC00) + 0x10000) ++ bytes)
          | none => none
        else none
      | _ => none
    else if isTrailing value then none
    else
      match joined? rest with
      | some bytes => some (bytesOfCode value ++ bytes)
      | none => none

/-- The text of the pieces. -/
def textOf? (pieces : List Piece) : Option String :=
  match joined? pieces with
  | some bytes => Utf8.decode? bytes
  | none => none

/-! ### Numbers -/

/-- The value of a decimal digit. -/
def digit? (byte : UInt8) : Option Nat :=
  if 0x30 ≤ byte && byte ≤ 0x39 then some (byte.toNat - 0x30) else none

/-- The longest run of digits, and what follows it. -/
def digits : Bytes → List Nat × Bytes
  | [] => ([], [])
  | byte :: rest =>
    match digit? byte with
    | some value =>
      let (values, after) := digits rest
      (value :: values, after)
    | none => ([], byte :: rest)

/-- At least one digit, and what follows the digits. -/
def someDigits? (bytes : Bytes) : Option (List Nat × Bytes) :=
  match digits bytes with
  | ([], _) => none
  | (values, after) => some (values, after)

/-- The digits before the point. A leading zero stands alone. -/
def whole? (bytes : Bytes) : Option (List Nat × Bytes) :=
  match digits bytes with
  | ([], _) => none
  | (0 :: _ :: _, _) => none
  | (values, after) => some (values, after)

/-- The point and the digits after it, if there is a point. -/
def decimals? : Bytes → Option (Option (List Nat) × Bytes)
  | 0x2E :: rest =>
    match someDigits? rest with
    | some (values, after) => some (some values, after)
    | none => none
  | bytes => some (none, bytes)

/-- The sign of an exponent, which may be left out. -/
def exponentSign : Bytes → Bool × Bytes
  | 0x2D :: rest => (true, rest)
  | 0x2B :: rest => (false, rest)
  | bytes => (false, bytes)

/-- The exponent, if there is one. -/
def exponent? : Bytes → Option (Option (Bool × List Nat) × Bytes)
  | [] => some (none, [])
  | byte :: rest =>
    if byte = 0x65 || byte = 0x45 then
      let (negative, rest) := exponentSign rest
      match someDigits? rest with
      | some (values, after) => some (some (negative, values), after)
      | none => none
    else some (none, byte :: rest)

/-- A numeral after its sign, and what follows it. -/
def unsigned? (negative : Bool) (bytes : Bytes) : Option (Numeral × Bytes) :=
  match whole? bytes with
  | none => none
  | some (whole, rest) =>
    match decimals? rest with
    | none => none
    | some (decimals, rest) =>
      match exponent? rest with
      | none => none
      | some (exponent, rest) => some (⟨negative, whole, decimals, exponent⟩, rest)

/-! ### Cutting -/

/-- Whether a byte is a blank between lexemes. -/
def isBlank (byte : UInt8) : Bool :=
  byte == 0x20 || byte == 0x09 || byte == 0x0A || byte == 0x0D

/-- The lexeme that begins with the given byte, and what follows it. -/
def Lexeme.next? (byte : UInt8) (rest : Bytes) : Option (Lexeme × Bytes) :=
  if byte = 0x5B then some (.openList, rest)
  else if byte = 0x5D then some (.closeList, rest)
  else if byte = 0x7B then some (.openObject, rest)
  else if byte = 0x7D then some (.closeObject, rest)
  else if byte = 0x3A then some (.colon, rest)
  else if byte = 0x2C then some (.comma, rest)
  else if byte = 0x22 then
    match pieces? rest with
    | some (pieces, rest) => some (.text (textOf? pieces), rest)
    | none => none
  else if byte = 0x6E then
    match rest with
    | 0x75 :: 0x6C :: 0x6C :: rest => some (.null, rest)
    | _ => none
  else if byte = 0x74 then
    match rest with
    | 0x72 :: 0x75 :: 0x65 :: rest => some (.flag true, rest)
    | _ => none
  else if byte = 0x66 then
    match rest with
    | 0x61 :: 0x6C :: 0x73 :: 0x65 :: rest => some (.flag false, rest)
    | _ => none
  else
    let numeral :=
      if byte = 0x2D then unsigned? true rest else unsigned? false (byte :: rest)
    match numeral with
    | some (numeral, rest) => some (.number numeral.number?, rest)
    | none => none

/-- The lexemes of a text, at most as many as the first argument allows. -/
def Lexeme.scanUpTo : Nat → Bytes → List Lexeme
  | 0, _ => []
  | _, [] => []
  | limit + 1, byte :: rest =>
    if isBlank byte then scanUpTo limit rest
    else
      match Lexeme.next? byte rest with
      | some (lexeme, rest) => lexeme :: scanUpTo limit rest
      | none => [.stray]

/-- The lexemes of a text. Each takes at least one byte. -/
def Lexeme.scan (bytes : Bytes) : List Lexeme :=
  scanUpTo bytes.length bytes

end Json

end SignedPurchase
