import SignedPurchase.Configuration.Basic
import SignedPurchase.Text.Count

/-
**Configurations from the surroundings of a process.**

A process finds variables and files around it. A variable that is no text counts as not set, and most
that are empty do too.

* `Surroundings.configuration` puts a configuration together. Of several things that are wrong, it
  names the first in this order: where the key is, the file of the key, the environment, the issuer,
  the key's name, the app.
-/

namespace SignedPurchase

/-- What a process finds around it. -/
structure Surroundings where
  /-- The bytes of a variable that is set. -/
  variableBytes? : String → Option Bytes
  /-- The bytes of a file that can be read. -/
  fileBytes? : String → Option Bytes

namespace Surroundings

/-- The text of a variable. -/
def text? (around : Surroundings) (name : String) : Option String :=
  (around.variableBytes? name).bind Utf8.decode?

/-- The text of a variable that is not empty. -/
def filled? (around : Surroundings) (name : String) : Option String :=
  (around.text? name).filter fun text => !text.isEmpty

/-- The text of a variable that must not be empty. -/
def required (around : Surroundings) (name : String) : Outcome String :=
  match around.filled? name with
  | some text => .ok text
  | none => .error (.configuration (name ++ " not set"))

/-- The text of a file that holds a private key. -/
def keyFile (around : Surroundings) (path : String) : Outcome String :=
  match (around.fileBytes? path).bind Utf8.decode? with
  | some text => .ok text
  | none => .error (.configuration ("failed to read private key " ++ path))

/-- The private key: in a variable, else in the file that another variable names. -/
def privateKey (around : Surroundings) : Outcome String :=
  match around.filled? "IAP_APPSTORE_PRIVATE_KEY" with
  | some key => .ok key
  | none =>
    match around.filled? "IAP_APPSTORE_PRIVATE_KEY_PATH" with
    | some path => around.keyFile path
    | none =>
      .error (.configuration "set IAP_APPSTORE_PRIVATE_KEY or IAP_APPSTORE_PRIVATE_KEY_PATH")

/-- The environment, if one is named. -/
def environment (around : Surroundings) : Outcome Environment :=
  match around.filled? "IAP_APPSTORE_ENVIRONMENT" with
  | some name => Environment.parse name
  | none => .ok Environment.usual

/-- The seconds after which a request is given up, if they are a count. -/
def timeout (around : Surroundings) : UInt64 :=
  ((around.text? "IAP_APPSTORE_TIMEOUT").bind Count.read?).getD Configuration.usualTimeout

/-- The configuration that the surroundings describe. -/
def configuration (around : Surroundings) : Outcome Configuration := do
  let privateKey ← around.privateKey
  let environment ← around.environment
  let issuerId ← around.required "IAP_APPSTORE_ISSUER_ID"
  let keyId ← around.required "IAP_APPSTORE_KEY_ID"
  let bundleId ← around.required "IAP_APPSTORE_BUNDLE_ID"
  return {
    issuerId, keyId, bundleId, privateKey, environment
    override := around.filled? "IAP_APPSTORE_URL"
    timeout := around.timeout }

end Surroundings

end SignedPurchase
