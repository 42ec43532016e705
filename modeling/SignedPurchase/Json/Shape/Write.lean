import SignedPurchase.Json.Shape

/-
**Writing a value of a shape.**

* `Shape.write` gives the tree of a value, with the members of a record in their order and hidden
  ones left out;
* `Shape.encode` gives its text.
-/

namespace SignedPurchase

namespace Json

mutual

/-- The tree of a value. -/
def Shape.write : {α : Type} → Shape α → α → Tree
  | _, .text, value => .text value
  | _, .flag, value => .flag value
  | _, .integer kind, value => .number (.integer (kind.toInt value))
  | _, .choice choice, value => .text (choice.name value)
  | _, .optional shape, value =>
    match value with
    | none => .null
    | some value => shape.write value
  | _, .orNull _ shape, value => shape.write value
  | _, .list shape, values => .list (values.map fun value => shape.write value)
  | _, .record _ members, values => .object (members.write values)
  | _, .via view shape, value => shape.write (view.back value)

/-- The members of a record that are written. -/
def Members.write : {σ ρ : Type} → Members σ ρ → ρ → List (String × Tree)
  | _, _, .nil, _ => []
  | _, _, .cons name _ shape _ hidden rest, (value, values) =>
    if hidden then rest.write values else (name, shape.write value) :: rest.write values

end

/-- The text of a value. -/
def Shape.encode {α : Type} (shape : Shape α) (value : α) : Bytes :=
  (shape.write value).write

/-- The text of a value as a string. -/
def Shape.render {α : Type} (shape : Shape α) (value : α) : String :=
  (shape.write value).render

end Json

end SignedPurchase
