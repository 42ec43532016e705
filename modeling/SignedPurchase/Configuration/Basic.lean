import SignedPurchase.Credential
import SignedPurchase.Environment
import SignedPurchase.Json.Shape.Integer

/-
**Configurations.**

What is needed to speak to the store server. The private key may be read from a written
configuration but is never written.

* `Configuration.shape` reads and writes a configuration;
* `Configuration.address` is where the server is, without a slash at the end;
* `Configuration.credential` is the part that signs bearer tokens;
* `Configuration.diagnostic` shows a configuration without its key.
-/

namespace SignedPurchase

open Json

/-- What is needed to speak to the store server. -/
structure Configuration where
  issuerId : String
  keyId : String
  bundleId : String
  /-- The text of the private key's file. -/
  privateKey : String
  environment : Environment
  /-- An address that stands in for that of the environment. -/
  override : Option String
  /-- The seconds after which a request is given up. -/
  timeout : UInt64
  deriving DecidableEq, Repr

namespace Configuration

/-- The seconds after which a request is given up, unless something else is said. -/
def usualTimeout : UInt64 := 30

/-- The configuration in which nothing is said. -/
def blank : Configuration where
  issuerId := ""
  keyId := ""
  bundleId := ""
  privateKey := ""
  environment := Environment.usual
  override := none
  timeout := usualTimeout

/-- The configuration of an issuer, its key and an app. -/
def ofKey (issuerId keyId bundleId privateKey : String) : Configuration :=
  { blank with issuerId, keyId, bundleId, privateKey }

/-- The members of a configuration in their order. -/
def members :=
  Members.required "issuer_id" .text <|
  Members.required "key_id" .text <|
  Members.required "bundle_id" .text <|
  Members.cons "private_key_pem" [] .text (some "") true <|
  Members.withDefault "environment" Environment.shape Environment.usual <|
  Members.maybe "url" .text <|
  Members.withDefault "timeout_secs" (.integer .unsigned64) usualTimeout .nil

/-- Configurations are records. -/
def shape : Shape Configuration :=
  .via
    { apply := fun ⟨issuerId, keyId, bundleId, privateKey, environment, override, timeout, _⟩ =>
        { issuerId, keyId, bundleId, privateKey, environment, override, timeout }
      back := fun config =>
        (config.issuerId, config.keyId, config.bundleId, config.privateKey, config.environment,
          config.override, config.timeout, ())
      back_apply := fun _ => rfl }
    (.record "StoreConfig" members)

/-- A text without the slashes at its end. -/
def withoutSlashes (text : String) : String :=
  String.ofList (text.toList.reverse.dropWhile (· == '/')).reverse

/-- The address of the server, without a slash at the end. -/
def address (config : Configuration) : Outcome String :=
  match config.override, config.environment.host? with
  | some address, _ => .ok (withoutSlashes address)
  | none, some host => .ok (withoutSlashes host)
  | none, none =>
    .error (.configuration
      ("environment " ++ config.environment.name ++ " has no server API host"))

/-- The part that signs bearer tokens. -/
def credential (config : Configuration) : Credential where
  issuerId := config.issuerId
  keyId := config.keyId
  bundleId := config.bundleId
  privateKey := Utf8.encode config.privateKey

/-- A configuration as diagnostics show it. -/
def diagnostic (config : Configuration) : String :=
  "StoreConfig \x7b issuer_id: " ++ Quoted.quote config.issuerId ++
    ", key_id: " ++ Quoted.quote config.keyId ++
    ", bundle_id: " ++ Quoted.quote config.bundleId ++
    ", private_key_pem: \"<redacted>\", environment: " ++ config.environment.name ++
    ", url: " ++ Failure.optionalText (config.override.map Quoted.quote) ++
    ", timeout_secs: " ++ integerText config.timeout.toNat ++ " \x7d"

end Configuration

end SignedPurchase
