import SignedPurchase.Configuration.Basic
import SignedPurchase.Proofs.Bearer.Sharing

/-
**Credentials that are kept apart.**

A keeper is found by the fingerprint of its credential, and handed out to nobody with another one,
whatever a pool was asked for before and however many keepers it has forgotten. So callers share a keeper
only if their credentials agree in every field, unless two spellings have the same digest.

* `Pool.IsKeyed` is the invariant: every number that is remembered leads to a keeper with its
  fingerprint;
* `Pool.fingerprint_eq_of_shares`: those who are handed the same keeper have the same fingerprint;
* `Pool.shares_of_fingerprint_eq`: those with the same fingerprint are handed the same keeper one after
  the other, if there is room for it;
* `Configuration.SignAlike`: configurations with the same credential;
* `fingerprints_separate` puts this together.
-/

namespace SignedPurchase

/-! ### Spellings and digests -/

/-- Two credentials are not spelled differently with the same digest. -/
def Credential.ApartInDigest (credential other : Credential) : Prop :=
  Digest.sha256 credential.spelling = Digest.sha256 other.spelling →
    credential.spelling = other.spelling

/-- A credential is spelled like another exactly when all fields are the same. -/
theorem Credential.spelling_eq_iff {credential other : Credential}
    (small : credential.IsMeasurable) (small' : other.IsMeasurable) :
    credential.spelling = other.spelling ↔ credential.issuerId = other.issuerId ∧
      credential.keyId = other.keyId ∧ credential.bundleId = other.bundleId ∧
      credential.privateKey = other.privateKey := by
  refine ⟨fun same => ?_, fun ⟨issuer, key, bundle, secret⟩ => ?_⟩
  · rw [eq_of_spelling small small' same]
    exact ⟨rfl, rfl, rfl, rfl⟩
  · rw [spelling, spelling, fields, fields, issuer, key, bundle, secret]

/-- Fingerprints are the same exactly for the same credential. -/
theorem Credential.fingerprint_eq_iff_eq {credential other : Credential}
    (small : credential.IsMeasurable) (small' : other.IsMeasurable)
    (apart : credential.ApartInDigest other) :
    credential.fingerprint = other.fingerprint ↔ credential = other := by
  refine ⟨fun same => ?_, congrArg fingerprint⟩
  exact eq_of_spelling small small' (apart (fingerprint_eq_iff.mp same))

/-- Two configurations have the same issuer, key, app and private key. -/
structure Configuration.SignAlike (config other : Configuration) : Prop where
  issuer : config.issuerId = other.issuerId
  key : config.keyId = other.keyId
  bundle : config.bundleId = other.bundleId
  secret : config.privateKey = other.privateKey

/-- Configurations have the same credential when they sign alike, wherever and however they ask. -/
theorem Configuration.credential_eq_iff {config other : Configuration} :
    config.credential = other.credential ↔ config.SignAlike other := by
  refine ⟨fun same => ?_, fun ⟨issuer, key, bundle, secret⟩ => ?_⟩
  · simp only [credential, Credential.mk.injEq] at same
    obtain ⟨issuer, key, bundle, secret⟩ := same
    exact ⟨issuer, key, bundle, Utf8.encode_inj secret⟩
  · rw [credential, credential, issuer, key, bundle, secret]

/-! ### Whose keeper has a number -/

namespace Pool

variable {pool : Pool} {number : Nat} {name : String} {credential other : Credential}

/-- The fingerprint of the credential whose keeper has a number. -/
def mark? (pool : Pool) (number : Nat) : Option String :=
  pool.keepers[number]?.map fun keeper => keeper.credential.fingerprint

/-- Every number that is remembered leads to a keeper with its fingerprint. -/
def IsKeyed (pool : Pool) : Prop :=
  ∀ entry ∈ pool.entries, pool.mark? entry.2 = some entry.1

/-- A keeper that is made leaves all others as they are. -/
theorem mark?_register (marked : pool.mark? number = some name) (credential : Credential) :
    (pool.register credential).mark? number = some name := by
  obtain ⟨keeper, held, _⟩ := Option.map_eq_some_iff.mp marked
  obtain ⟨within, _⟩ := List.getElem?_eq_some_iff.mp held
  rw [mark?, register, List.getElem?_append_left within]
  exact marked

/-- A keeper that is made has the fingerprint of its credential. -/
theorem mark?_register_self (pool : Pool) (credential : Credential) :
    (pool.register credential).mark? pool.keepers.length = some credential.fingerprint := by
  rw [mark?, register, List.getElem?_concat_length]
  rfl

theorem mark?_handle (marked : pool.mark? number = some name) (credential : Credential) :
    (pool.handle credential).2.mark? number = some name := by
  unfold handle
  split
  · exact marked
  · exact mark?_register marked credential

/-- No step of a keeper gives it to another credential. -/
theorem mark?_act {α : Type} {place : Nat} (within : place < pool.keepers.length)
    {step : Keeper → α × Keeper} (own : ∀ keeper, (step keeper).2.credential = keeper.credential)
    (number : Nat) : (pool.act place within step).2.mark? number = pool.mark? number := by
  rw [mark?, mark?, act]
  by_cases here : place = number
  · subst here
    rw [List.getElem?_set_self within, List.getElem?_eq_getElem within, Option.map_some,
      Option.map_some, own]
  · rw [List.getElem?_set_ne here]

/-- **A keeper stays with its credential**, whatever is asked for. -/
theorem mark?_meet (marked : pool.mark? number = some name) (demand : Demand) :
    (pool.meet demand).2.mark? number = some name := by
  cases demand with
  | keeper credential => exact mark?_handle marked credential
  | bearer credential now chance =>
    have own := fun keeper : Keeper => keeper.turn_after_credential ⟨now, chance⟩
    exact (mark?_act _ own number).trans (mark?_handle marked credential)
  | invalidate credential => exact marked
  | size => exact marked
  | deed place deed =>
    rw [meet]
    split
    · exact (mark?_act _ deed.perform_credential number).trans marked
    · exact marked

theorem mark?_afterDemands (marked : pool.mark? number = some name) (demands : List Demand) :
    (afterDemands meet pool demands).mark? number = some name := by
  induction demands generalizing pool with
  | nil => exact marked
  | cons demand rest ih => exact ih (mark?_meet marked demand)

/-! ### What is remembered leads to its own keeper -/

theorem isKeyed_ofCapacity (capacity : Nat) : (ofCapacity capacity).IsKeyed :=
  fun _ none => absurd none List.not_mem_nil

theorem IsKeyed.handle (keyed : pool.IsKeyed) (credential : Credential) :
    (pool.handle credential).2.IsKeyed := by
  unfold Pool.handle
  split
  · exact keyed
  · intro entry member
    have old (found : entry ∈ pool.entries) :
        (pool.register credential).mark? entry.2 = some entry.1 :=
      mark?_register (keyed entry found) credential
    dsimp only [register] at member
    split at member
    · exact old member
    · rcases List.mem_append.mp member with found | new
      · exact old found
      · obtain rfl := List.mem_singleton.mp new
        exact pool.mark?_register_self credential

/-- **What is remembered leads to its own keeper**, whatever is asked for. -/
theorem IsKeyed.meet (keyed : pool.IsKeyed) (demand : Demand) : (pool.meet demand).2.IsKeyed := by
  cases demand with
  | keeper credential => exact keyed.handle credential
  | bearer credential now chance =>
    have own := fun keeper : Keeper => keeper.turn_after_credential ⟨now, chance⟩
    exact fun entry member => (mark?_act _ own entry.2).trans (keyed.handle credential entry member)
  | invalidate credential => exact fun entry member => keyed entry (List.mem_filter.mp member).1
  | size => exact fun entry member => keyed entry (List.mem_of_mem_take member)
  | deed place deed =>
    rw [Pool.meet]
    split
    · exact fun entry member =>
        (mark?_act _ deed.perform_credential entry.2).trans (keyed entry member)
    · exact keyed

theorem after_append (capacity : Nat) (before between : List Demand) :
    after capacity (before ++ between) = afterDemands Pool.meet (after capacity before) between :=
  afterDemands_append _ _ _ _

theorem isKeyed_after (capacity : Nat) (demands : List Demand) :
    (after capacity demands).IsKeyed := by
  have each : ∀ pool : Pool, pool.IsKeyed → (afterDemands Pool.meet pool demands).IsKeyed := by
    induction demands with
    | nil => exact fun _ keyed => keyed
    | cons demand rest ih => exact fun _ keyed => ih _ (keyed.meet demand)
  exact each _ (isKeyed_ofCapacity capacity)

/-- The keeper that is handed out has the fingerprint that it was asked for by. -/
theorem IsKeyed.mark?_handle (keyed : pool.IsKeyed) (credential : Credential) :
    (pool.handle credential).2.mark? (pool.handle credential).1 = some credential.fingerprint := by
  unfold Pool.handle
  split
  · rename_i number found
    exact keyed _ (mem_of_lookup found)
  · exact pool.mark?_register_self credential

/-! ### Sharing a keeper -/

/-- The keeper that is handed out for a credential is handed out for another later on, when more was
asked for in between. -/
def Shares (capacity : Nat) (before : List Demand) (credential : Credential)
    (between : List Demand) (other : Credential) : Prop :=
  reply capacity before (.keeper credential) =
    reply capacity (before ++ .keeper credential :: between) (.keeper other)

variable {capacity : Nat} {before between : List Demand}

/-- **Those who are handed the same keeper have the same fingerprint.** -/
theorem fingerprint_eq_of_shares (shares : Shares capacity before credential between other) :
    credential.fingerprint = other.fingerprint := by
  have first := (isKeyed_after capacity before).mark?_handle credential
  have last := (isKeyed_after capacity (before ++ .keeper credential :: between)).mark?_handle other
  rw [← Reply.keeper.inj shares, after_append] at last
  -- The keeper of the first caller is still there when it is handed to the second.
  have later := mark?_handle (mark?_afterDemands first between) other
  exact Option.some.inj (later.symm.trans last)

/-- What is remembered of a new keeper is its number, if there is room for it. -/
theorem number?_register (room : pool.capacity ≠ 0) (new : pool.number? credential = none) :
    (pool.register credential).number? credential = some pool.keepers.length := by
  have entries : (pool.register credential).entries =
      pool.entries ++ [(credential.fingerprint, pool.keepers.length)] := if_neg room
  rw [number?] at new ⊢
  rw [entries, List.lookup_append, new, Option.none_or, List.lookup_cons_self]

theorem handle_of_number? (found : pool.number? credential = some number) :
    pool.handle credential = (number, pool) := by
  rw [handle, found]

/-- **Those with the same fingerprint are handed the same keeper** one after the other, if there is room
for it. -/
theorem shares_of_fingerprint_eq (room : capacity ≠ 0)
    (same : credential.fingerprint = other.fingerprint) :
    Shares capacity before credential [] other := by
  have spacious : (after capacity before).capacity ≠ 0 := by rwa [capacity_after]
  have known : (handle (after capacity before) credential).2.number? other =
      some (handle (after capacity before) credential).1 := by
    rw [number?, ← same, ← number?]
    cases found : (after capacity before).number? credential with
    | some number => simp only [handle, found]
    | none => simp only [handle, found, number?_register spacious found]
  have next : after capacity (before ++ [.keeper credential]) =
      (handle (after capacity before) credential).2 := after_append capacity before _
  refine congrArg Reply.keeper ?_
  rw [next, handle_of_number? known]

end Pool

/-- **Credentials share a keeper exactly when all their fields are the same.** What is put into the digest
is the same only then, as long as the lengths of the fields can be written. If the digests tell the
spellings apart, fingerprints are the same only then, and nobody with another credential is ever handed
a keeper, whatever was asked for before and in between; with the same credential one is handed the same
keeper right after, in a pool that remembers any. Configurations share a keeper when they have the same
issuer, key, app and private key, whatever their environments, addresses and timeouts. -/
theorem fingerprints_separate :
    (∀ credential other : Credential, credential.IsMeasurable → other.IsMeasurable →
      (credential.spelling = other.spelling ↔ credential.issuerId = other.issuerId ∧
        credential.keyId = other.keyId ∧ credential.bundleId = other.bundleId ∧
        credential.privateKey = other.privateKey) ∧
      (credential.ApartInDigest other →
        (credential.fingerprint = other.fingerprint ↔ credential = other) ∧
        (∀ capacity before between,
          Pool.Shares capacity before credential between other → credential = other) ∧
        ∀ capacity before, capacity ≠ 0 →
          (Pool.Shares capacity before credential [] other ↔ credential = other))) ∧
    ∀ config other : Configuration, config.credential.IsMeasurable →
      other.credential.IsMeasurable → config.credential.ApartInDigest other.credential →
      (config.credential.fingerprint = other.credential.fingerprint ↔ config.SignAlike other) ∧
      (∀ capacity before between,
        Pool.Shares capacity before config.credential between other.credential →
          config.SignAlike other) ∧
      ∀ capacity before, capacity ≠ 0 →
        (Pool.Shares capacity before config.credential [] other.credential ↔
          config.SignAlike other) := by
  have apart : ∀ credential other : Credential, credential.IsMeasurable → other.IsMeasurable →
      credential.ApartInDigest other →
      (credential.fingerprint = other.fingerprint ↔ credential = other) ∧
      (∀ capacity before between,
        Pool.Shares capacity before credential between other → credential = other) ∧
      ∀ capacity before, capacity ≠ 0 →
        (Pool.Shares capacity before credential [] other ↔ credential = other) := by
    intro credential other small small' apart
    have marked := Credential.fingerprint_eq_iff_eq small small' apart
    refine ⟨marked, fun _ _ _ shares => marked.mp (Pool.fingerprint_eq_of_shares shares), ?_⟩
    intro capacity before room
    exact ⟨fun shares => marked.mp (Pool.fingerprint_eq_of_shares shares),
      fun same => Pool.shares_of_fingerprint_eq room (marked.mpr same)⟩
  refine ⟨fun credential other small small' =>
    ⟨Credential.spelling_eq_iff small small', apart credential other small small'⟩, ?_⟩
  intro config other small small' separate
  simp only [← Configuration.credential_eq_iff]
  exact apart _ _ small small' separate

namespace Specimen

/-- A credential that has a byte of its issuer where another has it in its key. -/
def shifted : Credential := ⟨"tenantk", "ey", "bundle", []⟩

/-- What a tenant needs to speak to the server. -/
def office : Configuration := .ofKey "tenant" "key" "bundle" "secret"

/-- The same in another place, and with less patience. -/
def branch : Configuration :=
  { office with environment := .sandbox, override := some "http://host", timeout := 1 }

/-- **A byte that is shifted makes another credential**, which is handed another keeper, while another
place does not. -/
theorem shifted_apart : tenant.fingerprint ≠ shifted.fingerprint ∧
    ¬ Pool.Shares 1 [] tenant [] shifted ∧
    Pool.Shares 1 [.keeper shifted] office.credential [] branch.credential := by
  have small : tenant.IsMeasurable ∧ shifted.IsMeasurable ∧ office.credential.IsMeasurable := by
    decide +kernel
  have digests : Digest.sha256 tenant.spelling ≠ Digest.sha256 shifted.spelling := by
    decide +kernel
  obtain ⟨credentials, configurations⟩ := fingerprints_separate
  obtain ⟨marked, alike, _⟩ :=
    (credentials tenant shifted small.1 small.2.1).2 fun same => absurd same digests
  obtain ⟨_, _, shared⟩ := configurations office branch small.2.2 small.2.2 fun _ => rfl
  have apart : tenant ≠ shifted := by decide
  exact ⟨fun same => apart (marked.mp same), fun shares => apart (alike 1 [] [] shares),
    (shared 1 [.keeper shifted] (by decide)).mpr ⟨rfl, rfl, rfl, rfl⟩⟩

end Specimen

end SignedPurchase
