import SignedPurchase.Bytes

/-
**Elements of nested binary data.**

An element is a tag, a length and a content of that length; the content of a compound element is a
sequence of elements. Certificates are read leniently, keys and signatures strictly:

* `Der.element?` reads an element as certificates allow it: tags of any size, and a length in any
  number of bytes;
* `Der.Strict.element?` reads one as it must be written: a small tag and the shortest length.

Only definite lengths are read.
-/

namespace SignedPurchase

namespace Der

/-- The first part of an element. -/
structure Tag where
  /-- Universal, application, context or private, from zero to three. -/
  family : Nat
  constructed : Bool
  number : Nat
  deriving DecidableEq, Repr

/-- A tag with its content. -/
structure Element where
  tag : Tag
  content : Bytes
  deriving DecidableEq, Repr

/-! ### Tag numbers -/

/-- The tag of truth values. -/
def boolean : Nat := 1

/-- The tag of integers. -/
def integer : Nat := 2

/-- The tag of strings of bits. -/
def bitString : Nat := 3

/-- The tag of strings of bytes. -/
def octetString : Nat := 4

/-- The tag of the empty value. -/
def null : Nat := 5

/-- The tag of object identifiers. -/
def objectIdentifier : Nat := 6

/-- The tag of sequences. -/
def sequence : Nat := 16

/-- The tag of sets. -/
def set : Nat := 17

/-- The tag of short times, with a year of two digits. -/
def shortTime : Nat := 23

/-- The tag of long times, with a year of four digits. -/
def longTime : Nat := 24

/-! ### Reading -/

/-- A tag number in groups of seven bits, at most so many, of which the low thirty-two bits count. -/
def longNumber? : Nat → Nat → Bytes → Option (Nat × Bytes)
  | 0, _, _ => none
  | _, _, [] => none
  | groups + 1, value, byte :: rest =>
    let value := (value * 128 + byte.toNat % 128) % UInt32.size
    if byte < 0x80 then some (value, rest) else longNumber? groups value rest

/-- The tag at the front. -/
def tag? : Bytes → Option (Tag × Bytes)
  | [] => none
  | byte :: rest =>
    let family := byte.toNat / 64
    let constructed := byte.toNat / 32 % 2 == 1
    if byte.toNat % 32 = 31 then
      match longNumber? 5 0 rest with
      | some (number, rest) => some (⟨family, constructed, number⟩, rest)
      | none => none
    else some (⟨family, constructed, byte.toNat % 32⟩, rest)

/-- The length at the front. -/
def length? : Bytes → Option (Nat × Bytes)
  | [] => none
  | byte :: rest =>
    if byte < 0x80 then some (byte.toNat, rest)
    else if byte = 0x80 || byte = 0xFF then none
    else
      match Bytes.split? (byte.toNat - 0x80) rest with
      | some (digits, rest) =>
        let value := Bytes.toNat digits
        if value < UInt64.size then some (value, rest) else none
      | none => none

/-- The tag and the length at the front. -/
def header? (bytes : Bytes) : Option ((Tag × Nat) × Bytes) :=
  match tag? bytes with
  | none => none
  | some (tag, rest) =>
    match length? rest with
    | none => none
    | some (length, rest) => some ((tag, length), rest)

/-- The element at the front. -/
def element? (bytes : Bytes) : Option (Element × Bytes) :=
  match header? bytes with
  | none => none
  | some ((tag, length), rest) =>
    match Bytes.split? length rest with
    | none => none
    | some (content, rest) => some (⟨tag, content⟩, rest)

/-- The content of the element at the front, which must have the given tag number. -/
def content? (number : Nat) (bytes : Bytes) : Option (Bytes × Bytes) :=
  match element? bytes with
  | none => none
  | some (element, rest) =>
    if element.tag.number = number then some (element.content, rest) else none

/-- The content of an element that may not be compound. -/
def simple? (number : Nat) (bytes : Bytes) : Option (Bytes × Bytes) :=
  match element? bytes with
  | none => none
  | some (element, rest) =>
    if element.tag.number = number && !element.tag.constructed then some (element.content, rest)
    else none

/-- What was read: the bytes in front of the rest. -/
def consumed (bytes rest : Bytes) : Bytes :=
  bytes.take (bytes.length - rest.length)

/-- All elements of a content. -/
def elements? : Nat → Bytes → Option (List Element)
  | _, [] => some []
  | 0, _ => none
  | limit + 1, bytes =>
    match element? bytes with
    | none => none
    | some (element, rest) =>
      match elements? limit rest with
      | none => none
      | some others => some (element :: others)

/-! ### Contents -/

/-- The bits of a string, which must fill its bytes with zeros at the end. -/
def bits? (content : Bytes) : Option Bytes :=
  match content with
  | [] => none
  | [unused] => if unused = 0 then some [] else none
  | unused :: first :: rest =>
    let last := ((first :: rest).getLast?.getD 0).toNat
    if unused.toNat ≤ 8 && last % (1 <<< unused.toNat) == 0 then some (first :: rest) else none

/-- A number that is not negative and fits into thirty-two bits, with any number of zeros in front. -/
def word? (content : Bytes) : Option Nat :=
  match content with
  | [] => some 0
  | first :: _ =>
    let value := Bytes.toNat content
    if first < 0x80 && value < UInt32.size then some value else none

/-- Whether an integer has no byte in front that it does not need. -/
def isShortest (content : Bytes) : Bool :=
  match content with
  | [] => false
  | [_] => true
  | first :: second :: _ =>
    !((first == 0 && second < 0x80) || (first == 0xFF && second ≥ 0x80))

/-! ### Strict reading -/

namespace Strict

/-- The length at the front, in as few bytes as it can be written. -/
def length? (bytes : Bytes) : Option (Nat × Bytes) :=
  match Der.length? bytes with
  | none => none
  | some (length, rest) =>
    let width := bytes.length - rest.length - 1
    let shortest :=
      if width = 0 then true
      else if width = 1 then 0x80 ≤ length
      else 1 <<< (8 * (width - 1)) ≤ length
    if shortest && width ≤ 4 then some (length, rest) else none

/-- The content of the element at the front, which must begin with the given byte. -/
def content? (tag : UInt8) (bytes : Bytes) : Option (Bytes × Bytes) :=
  match bytes with
  | [] => none
  | byte :: rest =>
    if byte = tag then
      match length? rest with
      | none => none
      | some (length, rest) => Bytes.split? length rest
    else none

/-- The content of the only element. -/
def only? (tag : UInt8) (bytes : Bytes) : Option Bytes :=
  match content? tag bytes with
  | some (content, []) => some content
  | _ => none

/-- A number that is not negative, in as few bytes as it can be written. -/
def natural? (bytes : Bytes) : Option (Nat × Bytes) :=
  match content? 0x02 bytes with
  | none => none
  | some (content, rest) =>
    match content with
    | [] => none
    | first :: _ =>
      if first < 0x80 && isShortest content then some (Bytes.toNat content, rest) else none

/-- A positive number. -/
def positive? (bytes : Bytes) : Option (Nat × Bytes) :=
  match natural? bytes with
  | some (0, _) => none
  | other => other

end Strict

end Der

end SignedPurchase
