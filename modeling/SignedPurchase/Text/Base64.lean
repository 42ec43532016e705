import SignedPurchase.Bytes

/-
**Bytes as base64 text.**

A text is read in two steps, so that each rule stands alone: characters become sextets, sextets
become bytes.

* `Base64.decode?` refuses foreign characters, padding in the wrong place, a lone last character and
  set bits that no byte uses;
* `Base64.encode` writes the one spelling that every reader accepts.

Certificates use the standard alphabet and must be padded; token segments use the alphabet for
addresses and may leave the padding out.
-/

namespace SignedPurchase

namespace Base64

/-- The two alphabets, which differ in their last two characters. -/
inductive Alphabet where
  | standard
  | urlSafe
  deriving DecidableEq, Repr

/-- Whether a text must be filled up to a multiple of four characters. -/
inductive Padding where
  /-- The text is filled up exactly. -/
  | required
  /-- Any part of the filling may be left out. -/
  | indifferent
  deriving DecidableEq, Repr

/-- The characters for the values 62 and 63. -/
def Alphabet.lastTwo : Alphabet → Char × Char
  | .standard => ('+', '/')
  | .urlSafe => ('-', '_')

/-- The value of a character. -/
def Alphabet.value? (alphabet : Alphabet) (char : Char) : Option Nat :=
  if 'A' ≤ char && char ≤ 'Z' then some (char.toNat - 65)
  else if 'a' ≤ char && char ≤ 'z' then some (char.toNat - 97 + 26)
  else if '0' ≤ char && char ≤ '9' then some (char.toNat - 48 + 52)
  else if char = alphabet.lastTwo.1 then some 62
  else if char = alphabet.lastTwo.2 then some 63
  else none

/-- The character of a value below 64. -/
def Alphabet.char (alphabet : Alphabet) (value : Nat) : Char :=
  if value < 26 then Char.ofNat (value + 65)
  else if value < 52 then Char.ofNat (value - 26 + 97)
  else if value < 62 then Char.ofNat (value - 52 + 48)
  else if value = 62 then alphabet.lastTwo.1
  else alphabet.lastTwo.2

/-- The values of all characters, or nothing when one is foreign. -/
def Alphabet.values? (alphabet : Alphabet) : List Char → Option (List Nat)
  | [] => some []
  | char :: rest =>
    match alphabet.value? char, alphabet.values? rest with
    | some value, some values => some (value :: values)
    | _, _ => none

/-- Four sextets are three bytes; two or three left over are one or two bytes, and then the bits
that no byte uses must be zero. -/
def bytesOfSextets? : List Nat → Option Bytes
  | [] => some []
  | [_] => none
  | [a, b] => if b % 16 = 0 then some [UInt8.ofNat (a * 4 + b / 16)] else none
  | [a, b, c] =>
    if c % 4 = 0 then some [UInt8.ofNat (a * 4 + b / 16), UInt8.ofNat (b * 16 + c / 4)] else none
  | a :: b :: c :: d :: rest =>
    match bytesOfSextets? rest with
    | some bytes =>
      some (UInt8.ofNat (a * 4 + b / 16) :: UInt8.ofNat (b * 16 + c / 4) ::
        UInt8.ofNat (c * 64 + d) :: bytes)
    | none => none

/-- How many padding characters fill up a text of so many characters. -/
def fillingOf (count : Nat) : Nat :=
  (4 - count % 4) % 4

/-- Whether so many padding characters may follow so many others. -/
def Padding.admits : Padding → (count filling : Nat) → Bool
  | .required, count, filling => filling == fillingOf count
  | .indifferent, count, filling => filling ≤ fillingOf count

/-- The bytes that a text spells. -/
def decode? (alphabet : Alphabet) (padding : Padding) (text : List Char) : Option Bytes :=
  let filling := (text.reverse.takeWhile (· == '=')).length
  let symbols := text.take (text.length - filling)
  if padding.admits symbols.length filling then
    match alphabet.values? symbols with
    | some values => bytesOfSextets? values
    | none => none
  else none

/-- The sextets of bytes, the last one filled up with zero bits. -/
def sextetsOfBytes : Bytes → List Nat
  | [] => []
  | [a] => [a.toNat / 4, a.toNat % 4 * 16]
  | [a, b] => [a.toNat / 4, a.toNat % 4 * 16 + b.toNat / 16, b.toNat % 16 * 4]
  | a :: b :: c :: rest =>
    a.toNat / 4 :: (a.toNat % 4 * 16 + b.toNat / 16) :: (b.toNat % 16 * 4 + c.toNat / 64) ::
      c.toNat % 64 :: sextetsOfBytes rest

/-- The characters of bytes, without padding. -/
def symbols (alphabet : Alphabet) (bytes : Bytes) : List Char :=
  (sextetsOfBytes bytes).map alphabet.char

/-- The text of bytes, filled up to a multiple of four characters where padding is required. -/
def encode (alphabet : Alphabet) (padding : Padding) (bytes : Bytes) : String :=
  let written := symbols alphabet bytes
  match padding with
  | .required => String.ofList (written ++ List.replicate (fillingOf written.length) '=')
  | .indifferent => String.ofList written

end Base64

end SignedPurchase
