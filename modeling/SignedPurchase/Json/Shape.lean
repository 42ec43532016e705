import SignedPurchase.Json.Fault
import SignedPurchase.Json.Tree

/-
**Shapes.**

A shape says which texts stand for the values of a type and how a value is written. Shapes are data,
so that a law of reading and writing can be proved for all of them at once.

* `Shape` has texts, flags, integers, choices among names, optional values, lists and records;
* `Members` are the members of a record with their names, shapes and what stands for an absent one.

A record of named members is read as a nested pair; `Shape.via` gives it its own type.
-/

namespace SignedPurchase

namespace Json

/-- A kind of integers: its name in messages and its range. -/
structure IntegerKind (α : Type) where
  name : String
  ofInt? : Int → Option α
  toInt : α → Int
  /-- Every value lies in the range. -/
  ofInt?_toInt : ∀ value, ofInt? (toInt value) = some value

/-- Values that are written as names. -/
structure Choice (α : Type) where
  /-- The known names, in the order in which messages list them. -/
  names : List (String × α)
  /-- What every other name stands for, if it stands for anything. -/
  fallback : Option α
  /-- The name that is written. -/
  name : α → String
  /-- A written name is read back. -/
  read_name : ∀ value, (names.lookup (name value)).or fallback = some value

/-- The value of a name. -/
def Choice.value? {α : Type} (choice : Choice α) (name : String) : Option α :=
  (choice.names.lookup name).or choice.fallback

/-- Another view of a type: every value of the first is a value of the second. -/
structure View (α β : Type) where
  apply : α → β
  back : β → α
  /-- Going there and back changes nothing. -/
  back_apply : ∀ value, back (apply value) = value

mutual

/-- Which texts stand for the values of a type, and how a value is written. -/
inductive Shape : Type → Type 1
  | text : Shape String
  | flag : Shape Bool
  | integer {α : Type} (kind : IntegerKind α) : Shape α
  | choice {α : Type} (choice : Choice α) : Shape α
  /-- An absent value is written as `null`. -/
  | optional {α : Type} (shape : Shape α) : Shape (Option α)
  /-- When reading, `null` stands for the given value. -/
  | orNull {α : Type} (default : α) (shape : Shape α) : Shape α
  | list {α : Type} (shape : Shape α) : Shape (List α)
  /-- A record may also be read from a list of its members in their order. -/
  | record {σ ρ : Type} (title : String) (members : Members σ ρ) : Shape ρ
  | via {α β : Type} (view : View α β) (shape : Shape α) : Shape β

/-- The members of a record. The first index holds what has been read of each so far, the second
the finished record. -/
inductive Members : Type → Type → Type 1
  | nil : Members Unit Unit
  /-- A member is read under its name or an alias; an absent one is the given default, or an error
  when there is none; a hidden one is not written. -/
  | cons {α σ ρ : Type} (name : String) (aliases : List String) (shape : Shape α)
      (default : Option α) (hidden : Bool) (rest : Members σ ρ) : Members (Option α × σ) (α × ρ)

end

namespace Members

/-- A member that must be there. -/
def required {α σ ρ : Type} (name : String) (shape : Shape α) (rest : Members σ ρ) :
    Members (Option α × σ) (α × ρ) :=
  .cons name [] shape none false rest

/-- A member whose absence means the given value. -/
def withDefault {α σ ρ : Type} (name : String) (shape : Shape α) (default : α)
    (rest : Members σ ρ) : Members (Option α × σ) (α × ρ) :=
  .cons name [] shape (some default) false rest

/-- A member that may be absent. -/
def maybe {α σ ρ : Type} (name : String) (shape : Shape α) (rest : Members σ ρ) :
    Members (Option (Option α) × σ) (Option α × ρ) :=
  .cons name [] (.optional shape) (some none) false rest

/-- The number of members. -/
def count : {σ ρ : Type} → Members σ ρ → Nat
  | _, _, .nil => 0
  | _, _, .cons _ _ _ _ _ rest => rest.count + 1

/-- Nothing read yet. -/
def blank : {σ ρ : Type} → Members σ ρ → σ
  | _, _, .nil => ()
  | _, _, .cons _ _ _ _ _ rest => (none, rest.blank)

/-- The finished record, with the defaults of absent members. The first member that has none is
missing. -/
def complete : {σ ρ : Type} → Members σ ρ → σ → Except Fault ρ
  | _, _, .nil, _ => .ok ()
  | _, _, .cons name _ _ default _ rest, (slot, slots) =>
    match slot.or default with
    | none => .error (.missingMember name)
    | some value =>
      match rest.complete slots with
      | .ok values => .ok (value, values)
      | .error fault => .error fault

end Members

end Json

end SignedPurchase
