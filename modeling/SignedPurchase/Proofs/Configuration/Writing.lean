import SignedPurchase.Configuration.Basic
import SignedPurchase.Proofs.Json.Hiding

/-
**Configurations that are written.**

A configuration is read from a text with its private key and written without it. All else about it comes
back.

* `Configuration.cleared` is a configuration without its key;
* `Configuration.encode_eq_of_cleared`: nothing of the key is in what is written;
* `Configuration.survives_cleared`: the configuration without its key is read from that;
* `Configuration.decode_revealed`: every configuration can be read with its key from some text;
* `Configuration.key_never_written` puts this together.
-/

namespace SignedPurchase

open Json

namespace Configuration

variable {config other : Configuration}

/-- A configuration without its private key. -/
def cleared (config : Configuration) : Configuration :=
  { config with privateKey := "" }

/-! ### What is written -/

/-- **Configurations that differ in their keys alone are written alike.** -/
theorem encode_eq_of_cleared (same : config.cleared = other.cleared) :
    shape.encode config = shape.encode other := by
  have unaffected : ∀ config : Configuration, shape.encode config.cleared = shape.encode config :=
    fun _ => rfl
  rw [← unaffected config, same, unaffected other]

/-- The names that are written do not include that of the key. -/
theorem write_eq_object (config : Configuration) : ∃ written, shape.write config = .object written ∧
    written.map (·.1) =
      ["issuer_id", "key_id", "bundle_id", "environment", "url", "timeout_secs"] :=
  ⟨_, rfl, rfl⟩

/-! ### What is read from it -/

theorem members_isApart : members.isApart = true := by
  decide

theorem members_hidesDefaults : members.hidesDefaults = true := by
  decide

/-- The members of a configuration are restored, whatever they are. -/
theorem members_restores (config : Configuration) :
    members.Restores (config.issuerId, config.keyId, config.bundleId, config.privateKey,
      config.environment, config.override, config.timeout, ()) := by
  have address : Shape.text.optional.Restores config.override := by
    cases config.override with
    | none => exact Shape.optional_restores_none Shape.text
    | some text => exact Shape.optional_restores_some rfl (Shape.text_restores text)
  exact ⟨Shape.text_restores _, Shape.text_restores _, Shape.text_restores _, Shape.text_restores _,
    Shape.choice_restores Environment.choice _, address, Shape.integer_restores .unsigned64 _,
    trivial⟩

theorem members_revealed_faithful {depth : Nat} : members.revealed.Faithful depth := by
  simp [members, Members.required, Members.withDefault, Members.maybe, Members.revealed,
    Members.Faithful, Shape.Faithful, Shape.isPresent, Environment.shape]

/-- With nothing hidden the shape of a configuration is faithful. -/
theorem shape_revealed_faithful : shape.revealed.Faithful Tree.greatestDepth :=
  Shape.record_revealed_faithful members_isApart members_revealed_faithful

/-- **What is written of a configuration gives it back without its key**, by either route. -/
theorem survives_cleared (config : Configuration) : shape.Survives config.cleared :=
  Shape.survives_of_restores (shape.fits_write_of_revealed shape_revealed_faithful config.cleared)
    (Shape.via_restores _ (Shape.record_restores_cleared members_isApart members_hidesDefaults
      (members_restores config)))

/-- **With its key a configuration is read from what would be written if nothing were hidden.** -/
theorem decode_revealed (config : Configuration) :
    shape.decode (shape.revealed.encode config) = .ok config := by
  have apart : members.revealed.isApart = true := members.isApart_revealed.trans members_isApart
  have faithful : members.revealed.Faithful 0 := members_revealed_faithful
  have restored : shape.revealed.Restores config :=
    Shape.via_restores _ (Shape.record_restores faithful apart
      (members.restores_revealed_iff.mpr (members_restores config)))
  have fits := shape.revealed.fits_write shape_revealed_faithful config
  exact Shape.decode_of_revealed (Shape.survives_of_restores fits restored).1

/-! ### All of it -/

/-- **The private key can be read and is never written.** What is written of a configuration is the same
whatever its key, names every member but the key, and gives back all else, with an empty key, by either
route. So does what is written of a configuration that was read from a text, with its key or without.
Every configuration can be read from some text, with its key. -/
theorem key_never_written :
    (∀ (config : Configuration) (key : String),
      shape.encode { config with privateKey := key } = shape.encode config) ∧
    (∀ config : Configuration, ∃ written, shape.write config = .object written ∧
      written.map (·.1) =
        ["issuer_id", "key_id", "bundle_id", "environment", "url", "timeout_secs"]) ∧
    (∀ config : Configuration,
      shape.decode (shape.encode config) = .ok { config with privateKey := "" } ∧
        ∃ tree, Tree.decode (shape.encode config) = .ok tree ∧
          shape.ofTree tree = .ok { config with privateKey := "" }) ∧
    (∀ text config, shape.Gives text config → ∀ again,
      shape.Gives (shape.encode config) again ↔ again = { config with privateKey := "" }) ∧
    (∀ config : Configuration, ∃ text, shape.decode text = .ok config) := by
  have kept : ∀ config : Configuration, shape.encode config.cleared = shape.encode config :=
    fun _ => encode_eq_of_cleared rfl
  refine ⟨fun config key => encode_eq_of_cleared rfl, write_eq_object, fun config => ?_, ?_,
    fun config => ⟨_, decode_revealed config⟩⟩
  · rw [← kept config]
    exact survives_cleared config
  · intro text config _ again
    rw [← kept config]
    refine ⟨(survives_cleared config).eq_of_gives, ?_⟩
    rintro rfl
    exact .inl (survives_cleared config).1

end Configuration

namespace Specimen

/-- The text of a configuration with a key. -/
def keyedText : Bytes :=
  Utf8.encode ("\x7b\"issuer_id\":\"i\",\"key_id\":\"k\",\"bundle_id\":\"b\"," ++
    "\"private_key_pem\":\"secret\"\x7d")

/-- The configuration of that text. -/
def keyed : Configuration := .ofKey "i" "k" "b" "secret"

theorem keyed_given : Configuration.shape.decode keyedText = .ok keyed := rfl

/-- **A key that was read is not written**: what is read again is a configuration without one, and would
be so with any other key. -/
theorem key_forgotten :
    (∀ again, Configuration.shape.Gives (Configuration.shape.encode keyed) again ↔
      again = .ofKey "i" "k" "b" "") ∧
    Configuration.shape.encode (.ofKey "i" "k" "b" "another") = Configuration.shape.encode keyed := by
  obtain ⟨same, _, _, again, _⟩ := Configuration.key_never_written
  exact ⟨again keyedText keyed (.inl keyed_given), same keyed "another"⟩

end Specimen

end SignedPurchase
