import SignedPurchase.Text.Quoted
import SignedPurchase.Json.Draft

/-
**Why a text is no value of a shape.**

* `Fault` lists the reasons; all that is wrong with the writing itself is one reason, `malformed`;
* `Fault.message` words them;
* `Found.ofDraft?` names what was met where something else was expected.
-/

namespace SignedPurchase

namespace Json

/-- What was met. -/
inductive Found where
  | null
  | flag (value : Bool)
  | number (value : Number)
  | text (value : String)
  | list
  | object
  deriving DecidableEq, Repr

/-- Why a text is no value of a shape. -/
inductive Fault where
  /-- The writing is wrong, or it stands for no value at all. -/
  | malformed
  | wrongType (found : Found) (expected : String)
  | wrongValue (found : Found) (expected : String)
  | wrongLength (count : Nat) (expected : String)
  | unknownVariant (name : String) (known : List String)
  | missingMember (name : String)
  | repeatedMember (name : String)
  deriving DecidableEq, Repr

/-- What a draft shows at first sight, or nothing when it stands for no value. -/
def Found.ofDraft? : Draft → Option Found
  | .null => some .null
  | .flag value => some (.flag value)
  | .number (some value) => some (.number value)
  | .text (some value) => some (.text value)
  | .list _ _ => some .list
  | .object _ _ => some .object
  | _ => none

/-- A draft of another kind than expected. -/
def Fault.ofDraft (draft : Draft) (expected : String) : Fault :=
  match Found.ofDraft? draft with
  | some found => .wrongType found expected
  | none => .malformed

/-- The words for what was met. -/
def Found.words : Found → String
  | .null => "null"
  | .flag value => "boolean `" ++ (if value then "true" else "false") ++ "`"
  | .number (.integer value) => "integer `" ++ integerText value ++ "`"
  | .number (.fraction value) => "floating point `" ++ value.text ++ "`"
  | .text value => "string " ++ Quoted.quote value
  | .list => "sequence"
  | .object => "map"

/-- A name between grave accents. -/
def ticked (name : String) : String :=
  "`" ++ name ++ "`"

/-- The choice among names. -/
def choiceWords : List String → String
  | [] => "there are no variants"
  | [single] => "expected " ++ ticked single
  | [first, second] => "expected " ++ ticked first ++ " or " ++ ticked second
  | names => "expected one of " ++ String.intercalate ", " (names.map ticked)

/-- The message of a fault. -/
def Fault.message : Fault → String
  | .malformed => "syntax error"
  | .wrongType found expected => "invalid type: " ++ found.words ++ ", expected " ++ expected
  | .wrongValue found expected => "invalid value: " ++ found.words ++ ", expected " ++ expected
  | .wrongLength count expected =>
    "invalid length " ++ integerText count ++ ", expected " ++ expected
  | .unknownVariant name known =>
    "unknown variant " ++ ticked name ++ ", " ++ choiceWords known
  | .missingMember name => "missing field " ++ ticked name
  | .repeatedMember name => "duplicate field " ++ ticked name

end Json

end SignedPurchase
