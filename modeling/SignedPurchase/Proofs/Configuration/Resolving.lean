import SignedPurchase.Configuration.Surroundings
import SignedPurchase.Proofs.Environment
import SignedPurchase.Proofs.Outcome
import SignedPurchase.Proofs.Pem.First
import SignedPurchase.Proofs.Text.Count
import SignedPurchase.Proofs.Trust.Reports

/-
**What surroundings describe.**

What a configuration is to be is said of variables and files directly, and so is each trouble that there
may be. The surroundings give the configuration that they describe, and if they describe none, the first
trouble is told.

* `Surroundings.Says` and `Surroundings.IsSilent`: a variable that counts, and one that does not;
* `Surroundings.Describes` says which configuration is described, `configuration_eq_ok_iff` that it is
  the one that is given;
* `Surroundings.Fails` lists the troubles, `reports_configuration` finds the first of them;
* `Surroundings.configuration_eq_of_inline`: no file is looked at when the key is in a variable;
* `resolved_alike` puts this together.
-/

namespace SignedPurchase

namespace Surroundings

variable {around other : Surroundings} {name text path key : String} {environment : Environment}
  {config : Configuration}

/-! ### Variables and files -/

/-- A variable holds a text that is not empty. -/
def Says (around : Surroundings) (name text : String) : Prop :=
  around.variableBytes? name = some (Utf8.encode text) ∧ text ≠ ""

/-- A variable is not set, or is empty, or is no text. -/
def IsSilent (around : Surroundings) (name : String) : Prop :=
  ∀ text, ¬ around.Says name text

/-- A file can be read and holds a text. -/
def Holds (around : Surroundings) (path text : String) : Prop :=
  around.fileBytes? path = some (Utf8.encode text)

theorem text?_eq_some_iff :
    around.text? name = some text ↔ around.variableBytes? name = some (Utf8.encode text) := by
  simp only [text?, Option.bind_eq_some_iff, Utf8.decode?_eq_some_iff, exists_eq_right]

theorem filled?_eq_some_iff : around.filled? name = some text ↔ around.Says name text := by
  simp [filled?, Option.filter_eq_some_iff, text?_eq_some_iff, Says]

theorem filled?_eq_none_iff : around.filled? name = none ↔ around.IsSilent name := by
  simp only [Option.eq_none_iff_forall_ne_some, ne_eq, filled?_eq_some_iff, IsSilent]

theorem file?_eq_some_iff :
    (around.fileBytes? path).bind Utf8.decode? = some text ↔ around.Holds path text := by
  simp only [Option.bind_eq_some_iff, Utf8.decode?_eq_some_iff, exists_eq_right, Holds]

theorem Says.unique {text' : String} (said : around.Says name text) (again : around.Says name text') :
    text = text' := by
  rw [← filled?_eq_some_iff] at said again
  exact Option.some.inj (said.symm.trans again)

/-- A variable holds a number of sixty-four bits in decimal digits. -/
def Counts (around : Surroundings) (name : String) (number : UInt64) : Prop :=
  ∃ text, around.variableBytes? name = some (Utf8.encode text) ∧ Count.IsDecimal text number.toNat

theorem count?_eq_some_iff {number : UInt64} :
    (around.text? name).bind Count.read? = some number ↔ around.Counts name number := by
  simp only [Option.bind_eq_some_iff, text?_eq_some_iff, Count.read?_eq_some_iff]
  rfl

/-! ### What is described -/

/-- A private key is described: by a variable that holds it, or else by one that holds the path of its
file. -/
inductive GivesKey (around : Surroundings) : String → Prop where
  | inline {key : String} (said : around.Says "IAP_APPSTORE_PRIVATE_KEY" key) : GivesKey around key
  | filed {path key : String} (silent : around.IsSilent "IAP_APPSTORE_PRIVATE_KEY")
    (named : around.Says "IAP_APPSTORE_PRIVATE_KEY_PATH" path) (held : around.Holds path key) :
    GivesKey around key

/-- An environment is described: by its name, or by none for the one that is meant then. -/
inductive GivesEnvironment (around : Surroundings) : Environment → Prop where
  | unnamed (silent : around.IsSilent "IAP_APPSTORE_ENVIRONMENT") :
    GivesEnvironment around .production
  | named {name : String} {environment : Environment}
    (said : around.Says "IAP_APPSTORE_ENVIRONMENT" name)
    (known : Environment.IsNamed name environment) : GivesEnvironment around environment

/-- A configuration is the one that surroundings describe. -/
structure Describes (around : Surroundings) (config : Configuration) : Prop where
  key : around.GivesKey config.privateKey
  environment : around.GivesEnvironment config.environment
  issuerId : around.Says "IAP_APPSTORE_ISSUER_ID" config.issuerId
  keyId : around.Says "IAP_APPSTORE_KEY_ID" config.keyId
  bundleId : around.Says "IAP_APPSTORE_BUNDLE_ID" config.bundleId
  override : ∀ url, config.override = some url ↔ around.Says "IAP_APPSTORE_URL" url
  counted : ∀ number, around.Counts "IAP_APPSTORE_TIMEOUT" number → config.timeout = number
  uncounted : (∀ number, ¬ around.Counts "IAP_APPSTORE_TIMEOUT" number) → config.timeout = 30

theorem keyFile_eq_elim : around.keyFile path =
    ((around.fileBytes? path).bind Utf8.decode?).elim
      (.error (.configuration ("failed to read private key " ++ path))) .ok := by
  rw [keyFile]
  cases (around.fileBytes? path).bind Utf8.decode? with
  | none => rfl
  | some text => rfl

theorem required_eq_elim : around.required name =
    (around.filled? name).elim (.error (.configuration (name ++ " not set"))) .ok := by
  rw [required]
  cases around.filled? name with
  | none => rfl
  | some text => rfl

theorem required_eq_ok_iff : around.required name = .ok text ↔ around.Says name text := by
  rw [required_eq_elim, Outcome.elim_eq_ok_iff, filled?_eq_some_iff]

/-- **The key that is given** is the one that is described. -/
theorem privateKey_eq_ok_iff : around.privateKey = .ok key ↔ around.GivesKey key := by
  unfold privateKey
  split
  · next inline found =>
    have said := filled?_eq_some_iff.mp found
    refine ⟨?_, ?_⟩
    · rintro ⟨⟩
      exact .inline said
    · rintro (said' | ⟨silent, _, _⟩)
      · rw [said.unique said']
      · exact absurd said (silent inline)
  · next absent =>
    have silent := filled?_eq_none_iff.mp absent
    split
    · next path found =>
      have named := filled?_eq_some_iff.mp found
      rw [keyFile_eq_elim, Outcome.elim_eq_ok_iff, file?_eq_some_iff]
      refine ⟨.filed silent named, ?_⟩
      rintro (said | ⟨_, named', held⟩)
      · exact absurd said (silent key)
      · rwa [named.unique named']
    · next unnamed =>
      refine ⟨nofun, ?_⟩
      rintro (said | ⟨_, named, _⟩)
      · exact absurd said (silent key)
      · exact absurd named (filled?_eq_none_iff.mp unnamed _)

theorem environment_eq_ok_iff :
    around.environment = .ok environment ↔ around.GivesEnvironment environment := by
  unfold Surroundings.environment
  split
  · next name found =>
    have said := filled?_eq_some_iff.mp found
    rw [Environment.parse_eq_elim, Outcome.elim_eq_ok_iff, Environment.ofName?_eq_some_iff]
    refine ⟨.named said, ?_⟩
    rintro (silent | ⟨said', known⟩)
    · exact absurd said (silent name)
    · rwa [said.unique said']
  · next absent =>
    have silent := filled?_eq_none_iff.mp absent
    refine ⟨?_, ?_⟩
    · rintro ⟨⟩
      exact .unnamed silent
    · rintro (_ | ⟨said, _⟩)
      · rfl
      · exact absurd said (silent _)

/-- The seconds that are described: those of the variable, or else thirty. -/
theorem timeout_eq_iff {seconds : UInt64} : around.timeout = seconds ↔
    (∀ number, around.Counts "IAP_APPSTORE_TIMEOUT" number → seconds = number) ∧
      ((∀ number, ¬ around.Counts "IAP_APPSTORE_TIMEOUT" number) → seconds = 30) := by
  simp only [timeout, ← count?_eq_some_iff]
  cases (around.text? "IAP_APPSTORE_TIMEOUT").bind Count.read? with
  | none =>
    simp only [Option.getD_none, reduceCtorEq, false_imp_iff, implies_true, not_false_iff,
      true_and, forall_const, Configuration.usualTimeout, eq_comm]
  | some found =>
    simp only [Option.getD_some, Option.some.injEq]
    refine ⟨?_, ?_⟩
    · rintro rfl
      exact ⟨fun number same => same, fun none => absurd rfl (none found)⟩
    · rintro ⟨counted, _⟩
      exact (counted found rfl).symm

/-- **The configuration that is given** is the one that is described. -/
theorem configuration_eq_ok_iff :
    around.configuration = .ok config ↔ around.Describes config := by
  simp only [configuration, Outcome.bind_eq_ok_iff, privateKey_eq_ok_iff, environment_eq_ok_iff,
    required_eq_ok_iff]
  refine ⟨?_, ?_⟩
  · rintro ⟨key, given, environment, named, issuerId, issued, keyId, keyed, bundleId, bundled, made⟩
    cases made
    obtain ⟨counted, uncounted⟩ := timeout_eq_iff.mp (rfl : around.timeout = around.timeout)
    exact ⟨given, named, issued, keyed, bundled, fun url => filled?_eq_some_iff, counted, uncounted⟩
  · intro described
    refine ⟨_, described.key, _, described.environment, _, described.issuerId, _, described.keyId, _,
      described.bundleId, ?_⟩
    have override : around.filled? "IAP_APPSTORE_URL" = config.override :=
      Option.ext fun url => filled?_eq_some_iff.trans (described.override url).symm
    have timeout := timeout_eq_iff.mpr ⟨described.counted, described.uncounted⟩
    rw [override, timeout]
    rfl

/-! ### What may be wrong -/

/-- What may be wrong with surroundings. -/
inductive Trouble where
  /-- There is no word of where the private key is. -/
  | keySource
  /-- The file of the private key is not there, or holds no text. -/
  | keyFile
  | environment
  /-- A variable that must be set is not. -/
  | missing (name : String)
  deriving DecidableEq

/-- The troubles in the order in which they are told. -/
def Trouble.order : List Trouble :=
  [.keySource, .keyFile, .environment, .missing "IAP_APPSTORE_ISSUER_ID",
    .missing "IAP_APPSTORE_KEY_ID", .missing "IAP_APPSTORE_BUNDLE_ID"]

/-- A trouble is there, whatever else is, and this is said of it. -/
inductive Fails (around : Surroundings) : Trouble → Failure → Prop where
  | keySource (silent : around.IsSilent "IAP_APPSTORE_PRIVATE_KEY")
    (unnamed : around.IsSilent "IAP_APPSTORE_PRIVATE_KEY_PATH") :
    Fails around .keySource
      (.configuration "set IAP_APPSTORE_PRIVATE_KEY or IAP_APPSTORE_PRIVATE_KEY_PATH")
  | keyFile {path : String} (silent : around.IsSilent "IAP_APPSTORE_PRIVATE_KEY")
    (named : around.Says "IAP_APPSTORE_PRIVATE_KEY_PATH" path)
    (unread : ∀ key, ¬ around.Holds path key) :
    Fails around .keyFile (.configuration ("failed to read private key " ++ path))
  | environment {name : String} (said : around.Says "IAP_APPSTORE_ENVIRONMENT" name)
    (unknown : ∀ environment, ¬ Environment.IsNamed name environment) :
    Fails around .environment
      (.configuration ("unknown environment: " ++ Environment.folded name))
  | missing {name : String} (silent : around.IsSilent name) :
    Fails around (.missing name) (.configuration (name ++ " not set"))

theorem reports_required (name : String) :
    Reports around.Fails [.missing name] (around.required name) := by
  rw [required_eq_elim]
  refine reports_elim fun failure => ?_
  rw [filled?_eq_none_iff]
  refine ⟨fun fails => ?_, ?_⟩
  · cases fails with
    | missing silent => exact ⟨silent, rfl⟩
  · rintro ⟨silent, rfl⟩
    exact .missing silent

theorem reports_keyFile (silent : around.IsSilent "IAP_APPSTORE_PRIVATE_KEY")
    (named : around.Says "IAP_APPSTORE_PRIVATE_KEY_PATH" path) :
    Reports around.Fails [.keyFile] (around.keyFile path) := by
  rw [keyFile_eq_elim]
  refine reports_elim fun failure => ?_
  simp only [Option.eq_none_iff_forall_ne_some, ne_eq, file?_eq_some_iff]
  refine ⟨fun fails => ?_, ?_⟩
  · cases fails with
    | keyFile _ named' unread =>
      obtain rfl := named.unique named'
      exact ⟨unread, rfl⟩
  · rintro ⟨unread, rfl⟩
    exact .keyFile silent named unread

/-- The source of the key fails before its file does. -/
theorem reports_privateKey : Reports around.Fails [.keySource, .keyFile] around.privateKey := by
  unfold privateKey
  split
  · next key found =>
    have said := filled?_eq_some_iff.mp found
    refine reports_ok fun trouble member failure fails => ?_
    simp only [List.mem_cons, List.not_mem_nil, or_false] at member
    rcases member with rfl | rfl
    · cases fails with
      | keySource silent => exact silent key said
    · cases fails with
      | keyFile silent => exact silent key said
  · next absent =>
    have silent := filled?_eq_none_iff.mp absent
    split
    · next path found =>
      have named := filled?_eq_some_iff.mp found
      have passed : Reports around.Fails [.keySource] (.ok () : Outcome Unit) := by
        refine reports_ok fun trouble member failure fails => ?_
        rw [List.mem_singleton] at member
        subst member
        cases fails with
        | keySource _ unnamed => exact unnamed path named
      exact passed.andThen nofun fun _ _ => reports_keyFile silent named
    · next unnamed =>
      have unnamed := filled?_eq_none_iff.mp unnamed
      intro failure
      rw [FirstFails]
      refine ⟨?_, ?_⟩
      · rintro ⟨⟩
        exact .inl (.keySource silent unnamed)
      · rintro (fails | ⟨passed, _⟩)
        · cases fails with
          | keySource => rfl
        · exact absurd (.keySource silent unnamed) (passed _)

theorem reports_environment : Reports around.Fails [.environment] around.environment := by
  unfold Surroundings.environment
  split
  · next name found =>
    have said := filled?_eq_some_iff.mp found
    rw [Environment.parse_eq_elim]
    refine reports_elim fun failure => ?_
    rw [Environment.ofName?_eq_none_iff]
    refine ⟨fun fails => ?_, ?_⟩
    · cases fails with
      | environment said' unknown =>
        obtain rfl := said.unique said'
        exact ⟨unknown, rfl⟩
    · rintro ⟨unknown, rfl⟩
      exact .environment said unknown
  · next absent =>
    refine reports_ok fun trouble member failure fails => ?_
    rw [List.mem_singleton] at member
    subst member
    cases fails with
    | environment said => exact filled?_eq_none_iff.mp absent _ said

/-- **The first trouble is told.** -/
theorem reports_configuration : Reports around.Fails Trouble.order around.configuration := by
  refine reports_privateKey.bind fun privateKey _ => reports_environment.bind fun environment _ =>
    (reports_required _).bind fun issuerId _ => (reports_required _).bind fun keyId _ =>
      (reports_required _).bind fun bundleId _ => reports_ok nofun

/-! ### When there is none -/

theorem exists_givesKey_iff : (∃ key, around.GivesKey key) ↔
    (∃ key, around.Says "IAP_APPSTORE_PRIVATE_KEY" key) ∨
      ∃ path key, around.Says "IAP_APPSTORE_PRIVATE_KEY_PATH" path ∧ around.Holds path key := by
  refine ⟨?_, ?_⟩
  · rintro ⟨key, said | ⟨_, named, held⟩⟩
    · exact .inl ⟨key, said⟩
    · exact .inr ⟨_, key, named, held⟩
  · intro given
    by_cases inline : ∃ key, around.Says "IAP_APPSTORE_PRIVATE_KEY" key
    · obtain ⟨key, said⟩ := inline
      exact ⟨key, .inline said⟩
    · obtain ⟨path, key, named, held⟩ := given.resolve_left inline
      exact ⟨key, .filed (not_exists.mp inline) named held⟩

theorem exists_givesEnvironment_iff : (∃ environment, around.GivesEnvironment environment) ↔
    around.IsSilent "IAP_APPSTORE_ENVIRONMENT" ∨ ∃ name environment,
      around.Says "IAP_APPSTORE_ENVIRONMENT" name ∧ Environment.IsNamed name environment := by
  refine ⟨?_, ?_⟩
  · rintro ⟨environment, silent | ⟨said, known⟩⟩
    · exact .inl silent
    · exact .inr ⟨_, environment, said, known⟩
  · rintro (silent | ⟨name, environment, said, known⟩)
    · exact ⟨_, .unnamed silent⟩
    · exact ⟨environment, .named said known⟩

/-- **When a configuration is described at all.** The address and the seconds are never in the way. -/
theorem exists_configuration_iff : (∃ config, around.configuration = .ok config) ↔
    (∃ key, around.GivesKey key) ∧ (∃ environment, around.GivesEnvironment environment) ∧
      (∃ issuerId, around.Says "IAP_APPSTORE_ISSUER_ID" issuerId) ∧
      (∃ keyId, around.Says "IAP_APPSTORE_KEY_ID" keyId) ∧
      ∃ bundleId, around.Says "IAP_APPSTORE_BUNDLE_ID" bundleId := by
  refine ⟨?_, ?_⟩
  · rintro ⟨config, given⟩
    have described := configuration_eq_ok_iff.mp given
    exact ⟨⟨_, described.key⟩, ⟨_, described.environment⟩, ⟨_, described.issuerId⟩,
      ⟨_, described.keyId⟩, ⟨_, described.bundleId⟩⟩
  · rintro ⟨⟨key, given⟩, ⟨environment, named⟩, ⟨issuerId, issued⟩, ⟨keyId, keyed⟩,
      ⟨bundleId, bundled⟩⟩
    simp only [configuration, Outcome.bind_eq_ok_iff, privateKey_eq_ok_iff, environment_eq_ok_iff,
      required_eq_ok_iff]
    exact ⟨_, key, given, environment, named, issuerId, issued, keyId, keyed, bundleId, bundled, rfl⟩

/-! ### Keys in a variable -/

/-- **No file is looked at when the key is in a variable**, nor is the path of one. -/
theorem configuration_eq_of_inline (said : around.Says "IAP_APPSTORE_PRIVATE_KEY" key)
    (agree : ∀ name, name ≠ "IAP_APPSTORE_PRIVATE_KEY_PATH" →
      around.variableBytes? name = other.variableBytes? name) :
    around.configuration = other.configuration := by
  have texts : ∀ name, name ≠ "IAP_APPSTORE_PRIVATE_KEY_PATH" →
      around.text? name = other.text? name := by
    intro name apart
    rw [text?, text?, agree name apart]
  have filled : ∀ name, name ≠ "IAP_APPSTORE_PRIVATE_KEY_PATH" →
      around.filled? name = other.filled? name := by
    intro name apart
    rw [filled?, filled?, texts name apart]
  have said' : other.Says "IAP_APPSTORE_PRIVATE_KEY" key :=
    by
    rw [← filled?_eq_some_iff, ← filled "IAP_APPSTORE_PRIVATE_KEY" (by decide)]
    exact filled?_eq_some_iff.mpr said
  have keys : around.privateKey = other.privateKey :=
    (privateKey_eq_ok_iff.mpr (.inline said)).trans (privateKey_eq_ok_iff.mpr (.inline said')).symm
  have environments : around.environment = other.environment := by
    rw [Surroundings.environment, Surroundings.environment,
      filled "IAP_APPSTORE_ENVIRONMENT" (by decide)]
  have required : ∀ name, name ≠ "IAP_APPSTORE_PRIVATE_KEY_PATH" →
      around.required name = other.required name := by
    intro name apart
    rw [Surroundings.required, Surroundings.required, filled name apart]
  have timeouts : around.timeout = other.timeout := by
    rw [timeout, timeout, texts "IAP_APPSTORE_TIMEOUT" (by decide)]
  rw [configuration, configuration, keys, environments, timeouts,
    required "IAP_APPSTORE_ISSUER_ID" (by decide), required "IAP_APPSTORE_KEY_ID" (by decide),
    required "IAP_APPSTORE_BUNDLE_ID" (by decide), filled "IAP_APPSTORE_URL" (by decide)]

end Surroundings

/-! ### All of it -/

/-- **Surroundings are all taken in one way.** The configuration that is given is the one that they
describe. There is one when the key is given, the environment is known or none is named, and the issuer,
the key's name and the app are named. Otherwise the first trouble is told. When the key is in a variable
neither the files nor the path of one make a difference. -/
theorem surroundings_resolved :
    (∀ (around : Surroundings) (config : Configuration),
      around.configuration = .ok config ↔ around.Describes config) ∧
    (∀ around : Surroundings, (∃ config, around.configuration = .ok config) ↔
      ((∃ key, around.Says "IAP_APPSTORE_PRIVATE_KEY" key) ∨
        ∃ path key, around.Says "IAP_APPSTORE_PRIVATE_KEY_PATH" path ∧ around.Holds path key) ∧
      (around.IsSilent "IAP_APPSTORE_ENVIRONMENT" ∨ ∃ name environment,
        around.Says "IAP_APPSTORE_ENVIRONMENT" name ∧ Environment.IsNamed name environment) ∧
      (∃ issuerId, around.Says "IAP_APPSTORE_ISSUER_ID" issuerId) ∧
      (∃ keyId, around.Says "IAP_APPSTORE_KEY_ID" keyId) ∧
      ∃ bundleId, around.Says "IAP_APPSTORE_BUNDLE_ID" bundleId) ∧
    (∀ (around : Surroundings) (failure : Failure), around.configuration = .error failure ↔
      ∃ trouble ∈ Surroundings.Trouble.order, around.Fails trouble failure ∧
        ∀ earlier ∈ Surroundings.Trouble.order,
          Surroundings.Trouble.order.idxOf earlier < Surroundings.Trouble.order.idxOf trouble →
            ∀ other, ¬ around.Fails earlier other) ∧
    (∀ (around other : Surroundings) (key : String),
      around.Says "IAP_APPSTORE_PRIVATE_KEY" key →
      (∀ name, name ≠ "IAP_APPSTORE_PRIVATE_KEY_PATH" →
        around.variableBytes? name = other.variableBytes? name) →
      around.configuration = other.configuration) := by
  refine ⟨fun _ _ => Surroundings.configuration_eq_ok_iff, fun around => ?_, fun around failure => ?_,
    fun _ _ _ => Surroundings.configuration_eq_of_inline⟩
  · rw [Surroundings.exists_configuration_iff, Surroundings.exists_givesKey_iff,
      Surroundings.exists_givesEnvironment_iff]
  · exact (Surroundings.reports_configuration failure).trans firstFails_iff

namespace Specimen

/-- Surroundings in which some variables are set and no file can be read. -/
def setting (named : List (String × String)) : Surroundings where
  variableBytes? name := (named.lookup name).map Utf8.encode
  fileBytes? _ := none

/-- A key in a variable, beside the path of a file that is not there. -/
def inlined : Surroundings :=
  setting [("IAP_APPSTORE_PRIVATE_KEY", "secret"), ("IAP_APPSTORE_PRIVATE_KEY_PATH", "/missing"),
    ("IAP_APPSTORE_ENVIRONMENT", "SandBox"), ("IAP_APPSTORE_ISSUER_ID", "i"),
    ("IAP_APPSTORE_KEY_ID", "k"), ("IAP_APPSTORE_BUNDLE_ID", "b"), ("IAP_APPSTORE_URL", ""),
    ("IAP_APPSTORE_TIMEOUT", "ten")]

/-- The configuration of these. -/
def inlinedConfiguration : Configuration :=
  { Configuration.ofKey "i" "k" "b" "secret" with environment := .sandbox }

theorem inlined_described : inlined.Describes inlinedConfiguration where
  key := .inline ⟨rfl, by decide⟩
  environment := .named ⟨rfl, by decide⟩ ⟨"sandbox", by decide, by decide⟩
  issuerId := ⟨rfl, by decide⟩
  keyId := ⟨rfl, by decide⟩
  bundleId := ⟨rfl, by decide⟩
  override := by
    have silent : inlined.filled? "IAP_APPSTORE_URL" = none := by decide
    refine fun url => ⟨nofun, fun said => ?_⟩
    exact absurd said (Surroundings.filled?_eq_none_iff.mp silent url)
  counted := by
    intro number counts
    have uncounted : (inlined.text? "IAP_APPSTORE_TIMEOUT").bind Count.read? = none := by decide
    rw [Surroundings.count?_eq_some_iff.mpr counts] at uncounted
    cases uncounted
  uncounted _ := rfl

/-- **The key in the variable is taken** wherever the path leads, the empty address is none, and what is
no number of seconds counts for thirty. Without a path, and with an environment that is not known, it is
the source of the key that is told. -/
theorem inlined_resolved :
    (∀ other : Surroundings, (∀ name, name ≠ "IAP_APPSTORE_PRIVATE_KEY_PATH" →
        inlined.variableBytes? name = other.variableBytes? name) →
      other.configuration = .ok inlinedConfiguration) ∧
    (setting [("IAP_APPSTORE_ENVIRONMENT", "moon")]).configuration =
      .error (.configuration
        "set IAP_APPSTORE_PRIVATE_KEY or IAP_APPSTORE_PRIVATE_KEY_PATH") := by
  obtain ⟨given, _, told, alike⟩ := surroundings_resolved
  refine ⟨fun other agree => ?_, ?_⟩
  · have said : inlined.Says "IAP_APPSTORE_PRIVATE_KEY" "secret" := ⟨rfl, by decide⟩
    rw [← alike inlined other "secret" said agree, given]
    exact inlined_described
  · refine (told _ _).mpr ⟨.keySource, by decide, .keySource ?_ ?_, ?_⟩
    · rintro text ⟨⟨⟩, _⟩
    · rintro text ⟨⟨⟩, _⟩
    · intro earlier _ before
      exact absurd before (Nat.not_lt_zero _)

end Specimen

end SignedPurchase
