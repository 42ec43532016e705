import SignedPurchase.Json.Lexeme

/-
**Drafts: values as far as they are written.**

A draft keeps the members and items of a text in the order in which they stand, also when the text
breaks off or turns wrong; what is wrong is marked where it stands. A reader can therefore go through
a draft as through the text itself, and whatever it meets first decides.

* `Document.read` gives the draft of a text;
* `Draft.isSound` tells whether nothing in it is wrong, which is all that is asked of a value that
  nobody looks at: its texts and numbers need not stand for anything.
-/

namespace SignedPurchase

namespace Json

/-- A value as far as it is written. -/
inductive Draft where
  | null
  | flag (value : Bool)
  | number (value : Option Number)
  | text (value : Option String)
  /-- The items, and whether the list is closed after them. -/
  | list (items : List Draft) (closed : Bool)
  /-- The members, and whether the object is closed after them. What stands in the place of a name
  is a draft too, but the object is never closed after a name that is no text. -/
  | object (members : List (Draft × Draft)) (closed : Bool)
  /-- No value begins here. -/
  | broken
  deriving Repr

/-- A whole text: its value, and whether nothing but blanks follows. -/
structure Document where
  root : Draft
  clean : Bool
  deriving Repr

/-- A list or object whose end is not reached yet: what stands in it so far, the latest first. -/
inductive Frame where
  | list (before : List Draft)
  | object (before : List (Draft × Draft)) (name : Draft)
  deriving Repr

namespace Draft

/-- What stands in the place of a name. -/
def ofLexeme : Lexeme → Draft
  | .null => .null
  | .flag value => .flag value
  | .number value => .number value
  | .text value => .text value
  | .openList => .list [] false
  | .openObject => .object [] false
  | _ => .broken

/-- Puts a value into the frames around it, none of which is ever closed. -/
def abandoned : List Frame → Draft → Draft
  | [], value => value
  | .list before :: frames, value => abandoned frames (.list (value :: before).reverse false)
  | .object before name :: frames, value =>
    abandoned frames (.object ((name, value) :: before).reverse false)

mutual

/-- A value is expected. -/
def readValue : List Lexeme → List Frame → Document
  | .null :: rest, frames => readAfter rest frames .null
  | .flag value :: rest, frames => readAfter rest frames (.flag value)
  | .number value :: rest, frames => readAfter rest frames (.number value)
  | .text value :: rest, frames => readAfter rest frames (.text value)
  | .openList :: .closeList :: rest, frames => readAfter rest frames (.list [] true)
  | .openList :: rest, frames => readValue rest (.list [] :: frames)
  | .openObject :: .closeObject :: rest, frames => readAfter rest frames (.object [] true)
  | .openObject :: rest, frames => readName rest frames []
  | _, frames => ⟨abandoned frames .broken, false⟩

/-- The name of a member is expected. -/
def readName : List Lexeme → List Frame → List (Draft × Draft) → Document
  | .text name :: .colon :: rest, frames, before => readValue rest (.object before (.text name) :: frames)
  | lexeme :: _, frames, before => ⟨abandoned (.object before (ofLexeme lexeme) :: frames) .broken, false⟩
  | [], frames, before => ⟨abandoned frames (.object before.reverse false), false⟩

/-- A value has been read. -/
def readAfter : List Lexeme → List Frame → Draft → Document
  | rest, [], value => ⟨value, rest.isEmpty⟩
  | .comma :: rest, .list before :: frames, value =>
    match rest with
    | .closeList :: _ => ⟨abandoned frames (.list (value :: before).reverse false), false⟩
    | rest => readValue rest (.list (value :: before) :: frames)
  | .closeList :: rest, .list before :: frames, value =>
    readAfter rest frames (.list (value :: before).reverse true)
  | .comma :: rest, .object before name :: frames, value =>
    readName rest frames ((name, value) :: before)
  | .closeObject :: rest, .object before name :: frames, value =>
    readAfter rest frames (.object ((name, value) :: before).reverse true)
  | _, frame :: frames, value => ⟨abandoned (frame :: frames) value, false⟩

end

mutual

/-- Whether nothing in a draft is wrong. -/
def isSound : Draft → Bool
  | .null => true
  | .flag _ => true
  | .number _ => true
  | .text _ => true
  | .list items closed => closed && itemsSound items
  | .object members closed => closed && membersSound members
  | .broken => false

/-- Whether nothing in the items of a list is wrong. -/
def itemsSound : List Draft → Bool
  | [] => true
  | item :: rest => isSound item && itemsSound rest

/-- Whether nothing in the values of members is wrong. -/
def membersSound : List (Draft × Draft) → Bool
  | [] => true
  | (_, value) :: rest => isSound value && membersSound rest

end

end Draft

/-- The draft of a text. -/
def Document.read (bytes : Bytes) : Document :=
  Draft.readValue (Lexeme.scan bytes) []

end Json

end SignedPurchase
