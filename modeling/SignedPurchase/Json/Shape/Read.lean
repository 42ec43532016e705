import SignedPurchase.Json.Shape

/-
**Reading a value of a shape.**

* `Shape.decode` reads a value straight from a text: the first problem in the order of the text is
  the answer, and members that the shape does not know are not looked into;
* `Shape.ofTree` reads a value from a tree, where all writing is right already.

Both go through a draft in its order and differ only in what they say about misfits: too long a list
and a name that is no text are faults of the writing on the one route and of the value on the other.
-/

namespace SignedPurchase

namespace Json

/-- The way by which a value comes to its shape. -/
inductive Route where
  | text
  | tree
  deriving DecidableEq, Repr

/-- Reads the value of a member of that name, or tells that there is none. -/
abbrev Store (σ : Type) := String → Draft → σ → Option (Except Fault σ)

/-- Goes through the members of an object in order. -/
def collect {σ : Type} (store : Store σ) : List (Draft × Draft) → σ → Except Fault σ
  | [], slots => .ok slots
  | (.text (some name), value) :: rest, slots =>
    match store name value slots with
    | none => if value.isSound then collect store rest slots else .error .malformed
    | some (.ok slots) => collect store rest slots
    | some (.error fault) => .error fault
  | _ :: _, _ => .error .malformed

/-- Reads the items of a list in order. -/
def readEach {α : Type} (read : Draft → Except Fault α) : List Draft → Except Fault (List α)
  | [] => .ok []
  | item :: rest =>
    match read item with
    | .error fault => .error fault
    | .ok value =>
      match readEach read rest with
      | .error fault => .error fault
      | .ok values => .ok (value :: values)

/-- The value of a name, or the complaint that it is unknown. -/
def Choice.read {α : Type} (choice : Choice α) (name : String) : Except Fault α :=
  match choice.value? name with
  | some value => .ok value
  | none => .error (.unknownVariant name (choice.names.map (·.1)))

/-- Checks that nothing is attached to a name. -/
def readNothing : Draft → Except Fault Unit
  | .null => .ok ()
  | draft => .error (.ofDraft draft "unit")

/-- Reads a name that stands as the only member of an object. -/
def Choice.readObject {α : Type} (choice : Choice α) (route : Route)
    (members : List (Draft × Draft)) (closed : Bool) : Except Fault α :=
  if route = .tree && members.length ≠ 1 then
    .error (.wrongValue .object "map with a single key")
  else
    match members with
    | [] => .error .malformed
    | (.text (some name), attached) :: rest =>
      match choice.read name with
      | .error fault => .error fault
      | .ok value =>
        match readNothing attached with
        | .error fault => .error fault
        | .ok () => if rest.isEmpty && closed then .ok value else .error .malformed
    | (other, _) :: _ => .error (.ofDraft other "variant identifier")

/-- What is expected of a record that is written as a list. -/
def elementsText (title : String) (count : Nat) : String :=
  "struct " ++ title ++ " with " ++ integerText count ++ (if count = 1 then " element" else " elements")

/-- What is said about items left over, or about a list that is not closed. -/
def leftOver (route : Route) (items left : List Draft) (closed : Bool) : Option Fault :=
  if left.isEmpty then (if closed then none else some .malformed)
  else
    match route with
    | .text => some .malformed
    | .tree => some (.wrongLength items.length "fewer elements in array")

mutual

/-- Reads a value of a shape from a draft. -/
def Shape.read (route : Route) : {α : Type} → Shape α → Draft → Except Fault α
  | _, .text, draft =>
    match draft with
    | .text (some value) => .ok value
    | draft => .error (.ofDraft draft "a string")
  | _, .flag, draft =>
    match draft with
    | .flag value => .ok value
    | draft => .error (.ofDraft draft "a boolean")
  | _, .integer kind, draft =>
    match draft with
    | .number (some (.integer number)) =>
      match kind.ofInt? number with
      | some value => .ok value
      | none => .error (.wrongValue (.number (.integer number)) kind.name)
    | draft => .error (.ofDraft draft kind.name)
  | _, .choice choice, draft =>
    match draft with
    | .text (some name) => choice.read name
    | .object members closed => choice.readObject route members closed
    | draft =>
      match route with
      | .text => .error .malformed
      | .tree => .error (.ofDraft draft "string or map")
  | _, .optional shape, draft =>
    match draft with
    | .null => .ok none
    | draft =>
      match shape.read route draft with
      | .ok value => .ok (some value)
      | .error fault => .error fault
  | _, .orNull default shape, draft =>
    match draft with
    | .null => .ok default
    | draft => shape.read route draft
  | _, .list shape, draft =>
    match draft with
    | .list items closed =>
      match readEach (fun item => shape.read route item) items with
      | .ok values => if closed then .ok values else .error .malformed
      | .error fault => .error fault
    | draft => .error (.ofDraft draft "a sequence")
  | _, .record title members, draft =>
    match draft with
    | .object named closed =>
      match collect (fun name value slots => members.store route name value slots) named
          members.blank with
      | .error fault => .error fault
      | .ok slots => if closed then members.complete slots else .error .malformed
    | .list items closed =>
      match members.readItems route
          (fun count => .wrongLength count (elementsText title members.count)) 0 items closed with
      | .error fault => .error fault
      | .ok (values, left) =>
        match leftOver route items left closed with
        | some fault => .error fault
        | none => .ok values
    | draft => .error (.ofDraft draft ("struct " ++ title))
  | _, .via view shape, draft =>
    match shape.read route draft with
    | .ok value => .ok (view.apply value)
    | .error fault => .error fault

/-- Reads a member of the given name into its slot; nothing happens when no member has this name. A
member that was read before is refused without a look at its value. -/
def Members.store (route : Route) : {σ ρ : Type} → Members σ ρ → Store σ
  | _, _, .nil, _, _, _ => none
  | _, _, .cons own aliases shape _ _ rest, name, value, (slot, slots) =>
    if name = own || aliases.contains name then
      match slot with
      | some _ => some (.error (.repeatedMember own))
      | none =>
        match shape.read route value with
        | .ok value => some (.ok (some value, slots))
        | .error fault => some (.error fault)
    else
      match rest.store route name value slots with
      | none => none
      | some (.ok slots) => some (.ok (slot, slots))
      | some (.error fault) => some (.error fault)

/-- Reads the members from the items of a list, and gives the items left over. When the items run
out, members with a default may follow. -/
def Members.readItems (route : Route) :
    {σ ρ : Type} → Members σ ρ → (Nat → Fault) → Nat → List Draft → Bool →
      Except Fault (ρ × List Draft)
  | _, _, .nil, _, _, items, _ => .ok ((), items)
  | _, _, .cons _ _ shape default _ rest, short, index, items, closed =>
    match items with
    | [] =>
      if closed then
        match default with
        | none => .error (short index)
        | some value =>
          match rest.readItems route short (index + 1) [] closed with
          | .ok (values, left) => .ok ((value, values), left)
          | .error fault => .error fault
      else .error .malformed
    | item :: items =>
      match shape.read route item with
      | .error fault => .error fault
      | .ok value =>
        match rest.readItems route short (index + 1) items closed with
        | .ok (values, left) => .ok ((value, values), left)
        | .error fault => .error fault

end

/-- Reads a value straight from a text. -/
def Shape.decode {α : Type} (shape : Shape α) (bytes : Bytes) : Except Fault α :=
  let document := Document.read bytes
  match shape.read .text document.root with
  | .ok value => if document.clean then .ok value else .error .malformed
  | .error fault => .error fault

/-- Reads a value from a tree. -/
def Shape.ofTree {α : Type} (shape : Shape α) (tree : Tree) : Except Fault α :=
  shape.read .tree tree.toDraft

/-- Reads a tree from a text. -/
def Tree.decode (bytes : Bytes) : Except Fault Tree :=
  match (Document.read bytes).tree? with
  | some tree => .ok tree
  | none => .error .malformed

end Json

end SignedPurchase
