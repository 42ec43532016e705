import SignedPurchase.Failure
import SignedPurchase.Json.Shape

/-
**Store environments.**

* `Environment.name` is the name in records and messages;
* `Environment.host?` is the address of the store server, which the two local environments lack;
* `Environment.parse` reads a name in any case of its ASCII letters.
-/

namespace SignedPurchase

open Json

/-- Where a purchase was made. -/
inductive Environment where
  | production
  | sandbox
  | xcode
  | localTesting
  deriving DecidableEq, Repr

namespace Environment

/-- The name in records and messages. -/
def name : Environment → String
  | .production => "Production"
  | .sandbox => "Sandbox"
  | .xcode => "Xcode"
  | .localTesting => "LocalTesting"

/-- The address of the store server. -/
def host? : Environment → Option String
  | .production => some "https://api.storekit.itunes.apple.com"
  | .sandbox => some "https://api.storekit-sandbox.itunes.apple.com"
  | .xcode => none
  | .localTesting => none

/-- The environment that is meant when none is named. -/
def usual : Environment := .production

/-- A name with its ASCII capitals made small. -/
def folded (text : String) : String :=
  text.map Char.toLower

/-- The environment of a name whose letters are small already. -/
def ofSmallName? (text : String) : Option Environment :=
  if text = "production" then some .production
  else if text = "sandbox" then some .sandbox
  else if text = "xcode" then some .xcode
  else if text = "localtesting" || text = "local_testing" then some .localTesting
  else none

/-- The environment of a name in any case of its ASCII letters. -/
def ofName? (text : String) : Option Environment :=
  ofSmallName? (folded text)

/-- The environment of a name, or the complaint that there is none of that name. -/
def parse (text : String) : Outcome Environment :=
  match ofName? text with
  | some environment => .ok environment
  | none => .error (.configuration ("unknown environment: " ++ folded text))

/-- The choice among the four names. -/
def choice : Choice Environment where
  names := [("Production", .production), ("Sandbox", .sandbox), ("Xcode", .xcode),
    ("LocalTesting", .localTesting)]
  fallback := none
  name := name
  read_name value := by cases value <;> decide

/-- Environments are written by name. -/
def shape : Shape Environment := .choice choice

end Environment

end SignedPurchase
