import SignedPurchase.Json.Draft

/-
**Value trees.**

A tree is a finished value. Its members stand in the order in which they are to be written; the tree
of a text has them in the order of their names, each name once, the last of repeated ones kept.

* `Tree.ofDraft?` gives the tree of a draft that is right throughout and not nested too deeply;
* `Tree.toDraft` shows a tree as the draft of its own text;
* `Tree.write` writes a tree in bytes, without blanks.
-/

namespace SignedPurchase

namespace Json

/-- A finished value. -/
inductive Tree where
  | null
  | flag (value : Bool)
  | number (value : Number)
  | text (value : String)
  | list (items : List Tree)
  | object (members : List (String × Tree))
  deriving Repr

namespace Tree

/-- How many lists and objects may stand inside each other. -/
def greatestDepth : Nat := 127

/-- Puts a member in its place by name. A member of the same name is replaced. -/
def insertMember (name : String) (value : Tree) : List (String × Tree) → List (String × Tree)
  | [] => [(name, value)]
  | (other, present) :: rest =>
    if name < other then (name, value) :: (other, present) :: rest
    else if name = other then (name, value) :: rest
    else (other, present) :: insertMember name value rest

mutual

/-- The tree of a draft, when nothing in it is wrong and it is nested at most so deeply. -/
def ofDraft? : Draft → Nat → Option Tree
  | .null, _ => some .null
  | .flag value, _ => some (.flag value)
  | .number (some value), _ => some (.number value)
  | .number none, _ => none
  | .text (some value), _ => some (.text value)
  | .text none, _ => none
  | .list items closed, depth + 1 =>
    match closed, itemsOfDraft? items depth with
    | true, some items => some (.list items)
    | _, _ => none
  | .list _ _, 0 => none
  | .object members closed, depth + 1 =>
    match closed, membersOfDraft? members depth [] with
    | true, some members => some (.object members)
    | _, _ => none
  | .object _ _, 0 => none
  | .broken, _ => none

/-- The trees of the items of a list. -/
def itemsOfDraft? : List Draft → Nat → Option (List Tree)
  | [], _ => some []
  | item :: rest, depth =>
    match ofDraft? item depth, itemsOfDraft? rest depth with
    | some item, some rest => some (item :: rest)
    | _, _ => none

/-- The members of an object, each put in its place among those before it. -/
def membersOfDraft? :
    List (Draft × Draft) → Nat → List (String × Tree) → Option (List (String × Tree))
  | [], _, before => some before
  | (.text (some name), value) :: rest, depth, before =>
    match ofDraft? value depth with
    | some value => membersOfDraft? rest depth (insertMember name value before)
    | none => none
  | _ :: _, _, _ => none

end

mutual

/-- A tree as the draft of its own text. -/
def toDraft : Tree → Draft
  | .null => .null
  | .flag value => .flag value
  | .number value => .number (some value)
  | .text value => .text (some value)
  | .list items => .list (itemsToDraft items) true
  | .object members => .object (membersToDraft members) true

/-- The drafts of the items of a list. -/
def itemsToDraft : List Tree → List Draft
  | [] => []
  | item :: rest => toDraft item :: itemsToDraft rest

/-- The drafts of the members of an object. -/
def membersToDraft : List (String × Tree) → List (Draft × Draft)
  | [] => []
  | (name, value) :: rest => (.text (some name), toDraft value) :: membersToDraft rest

end

/-- The value of a member of an object. -/
def member? (tree : Tree) (name : String) : Option Tree :=
  match tree with
  | .object members => members.lookup name
  | _ => none

/-! ### Writing -/

/-- The hexadecimal digit of a value below sixteen, as a byte. -/
def hexDigit (value : Nat) : UInt8 :=
  UInt8.ofNat (if value < 10 then value + 0x30 else value - 10 + 0x61)

/-- One byte of a text between quotation marks. -/
def escape (byte : UInt8) : Bytes :=
  if byte = 0x22 then [0x5C, 0x22]
  else if byte = 0x5C then [0x5C, 0x5C]
  else if byte = 0x08 then [0x5C, 0x62]
  else if byte = 0x0C then [0x5C, 0x66]
  else if byte = 0x0A then [0x5C, 0x6E]
  else if byte = 0x0D then [0x5C, 0x72]
  else if byte = 0x09 then [0x5C, 0x74]
  else if byte < 0x20 then
    [0x5C, 0x75, 0x30, 0x30, hexDigit (byte.toNat / 16), hexDigit (byte.toNat % 16)]
  else [byte]

/-- A text between quotation marks. -/
def writeText (text : String) : Bytes :=
  0x22 :: ((Utf8.encode text).flatMap escape ++ [0x22])

mutual

/-- A tree in bytes. -/
def write : Tree → Bytes
  | .null => Utf8.encode "null"
  | .flag true => Utf8.encode "true"
  | .flag false => Utf8.encode "false"
  | .number value => Utf8.encode value.text
  | .text value => writeText value
  | .list [] => [0x5B, 0x5D]
  | .list (item :: rest) => 0x5B :: (write item ++ writeItems rest)
  | .object [] => [0x7B, 0x7D]
  | .object ((name, value) :: rest) =>
    0x7B :: (writeText name ++ 0x3A :: (write value ++ writeMembers rest))

/-- The items after the first, and the closing bracket. -/
def writeItems : List Tree → Bytes
  | [] => [0x5D]
  | item :: rest => 0x2C :: (write item ++ writeItems rest)

/-- The members after the first, and the closing brace. -/
def writeMembers : List (String × Tree) → Bytes
  | [] => [0x7D]
  | (name, value) :: rest =>
    0x2C :: (writeText name ++ 0x3A :: (write value ++ writeMembers rest))

end

/-- A tree as text. -/
def render (tree : Tree) : String :=
  Utf8.decodeLossy tree.write

end Tree

/-- The tree of a text, when it is one value and nothing else. -/
def Document.tree? (document : Document) : Option Tree :=
  if document.clean then Tree.ofDraft? document.root Tree.greatestDepth else none

end Json

end SignedPurchase
