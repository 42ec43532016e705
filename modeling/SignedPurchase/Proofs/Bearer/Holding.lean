import SignedPurchase.Proofs.Bearer.Claims
import SignedPurchase.Proofs.Bearer.Waiting

/-
**What a keeper holds in every run.**

A keeper is used in four ways, by callers that may have to wait for their turns: it provides a bearer,
renews its token, forgets it, or is asked about it. Only an attempt to make a token may change what it
holds for another token, and only forgetting may leave it with none.

* `Lobby.keeper_step` says all that an event may do to the keeper;
* `Lobby.Kept` is the invariant: the token that is held was made by the credential, with a reading of
  the clock between the start and now (`Lobby.Kept.afterAll`);
* `Lobby.Kept.held_afterAll`: without forgetting, a token is held for good, and lasts no shorter;
* `Lobby.minted_afterAll`: as many tokens are counted as were made;
* `Lobby.upkeep` puts together what holds in every run;
* `Specimen.lobby_upkeep` is a run in which a caller waits.
-/

namespace SignedPurchase

namespace Keeper

variable {keeper : Keeper} {token : BearerToken} {now : Int} {chance : Chance}

theorem provide_of_expired (spent : keeper.isExpiredAt now = true) (chance : Chance) :
    keeper.provide now chance =
      ((keeper.renew now chance).1.map (·.text), (keeper.renew now chance).2) := by
  rw [provide, valid?_eq_none spent]

theorem keep_ne : keeper.keep token ≠ keeper := by
  intro same
  have count : keeper.minted + 1 = keeper.minted := congrArg Keeper.minted same
  omega

/-- **A keeper is expired exactly when a turn tries to make a token**, and else the turn gives the
token that is held. -/
theorem isExpiredAt_iff_provide (keeper : Keeper) (now : Int) (chance : Chance) :
    (keeper.isExpiredAt now = true ↔
      keeper.provide now chance =
        ((keeper.renew now chance).1.map (·.text), (keeper.renew now chance).2)) ∧
    (keeper.isExpiredAt now = false ↔
      ∃ token, keeper.current = some token ∧
        keeper.provide now chance = (.ok token.text, keeper)) := by
  have other : ∀ token : BearerToken, (Except.ok token.text, keeper) ≠
      ((keeper.renew now chance).1.map (·.text), (keeper.renew now chance).2) := by
    intro token same
    rcases keeper.renew_cases now chance with ⟨made, _, renewed⟩ | ⟨failure, _, renewed⟩
    · rw [renewed] at same
      exact keep_ne (Prod.ext_iff.mp same).2.symm
    · rw [renewed] at same
      cases (Prod.ext_iff.mp same).1
  cases spent : keeper.isExpiredAt now with
  | true =>
    have provided := provide_of_expired spent chance
    refine ⟨⟨fun _ => provided, fun _ => rfl⟩, ⟨nofun, ?_⟩⟩
    rintro ⟨token, _, given⟩
    exact (other token (given.symm.trans provided)).elim
  | false =>
    obtain ⟨token, held, lasting⟩ := isExpiredAt_eq_false_iff.mp spent
    have provided := provide_of_lasting held lasting chance
    refine ⟨⟨nofun, fun renewed => ?_⟩, ⟨fun _ => ⟨token, held, provided⟩,
      fun _ => rfl⟩⟩
    exact (other token (provided.symm.trans renewed)).elim

end Keeper

namespace Lobby

/-! ### Operations -/

/-- What callers may do with a keeper. The two questions change nothing. -/
inductive Operation where
  | event (event : Event)
  /-- Asks for the token that is held. -/
  | current
  /-- Asks whether no token is held that lasts now. -/
  | isExpired

/-- What the caller of an operation is told. -/
inductive Answer where
  | nothing
  | bearer (result : Outcome String)
  | renewed (result : Outcome BearerToken)
  | held (token : Option BearerToken)
  | expired (spent : Bool)

/-- The answer to an operation. Who does not wait has no turn. -/
def answer (lobby : Lobby) : Operation → Answer
  | .event (.turn caller chance) =>
    match lobby.turn? caller chance with
    | some turn => .bearer turn.result
    | none => .nothing
  | .event (.renew chance) => .renewed (lobby.keeper.renew lobby.clock chance).1
  | .event _ => .nothing
  | .current => .held lobby.keeper.current
  | .isExpired => .expired (lobby.keeper.isExpiredAt lobby.clock)

/-- Who is told of a failure got neither a bearer nor a token. -/
def Answer.IsFailure : Answer → Prop
  | .bearer (.error _) => True
  | .renewed (.error _) => True
  | _ => False

/-- What an operation leads to. -/
def next (lobby : Lobby) : Operation → Lobby
  | .event event => lobby.step event
  | _ => lobby

/-- What operations lead to, the first of them first. -/
def afterAll (lobby : Lobby) (operations : List Operation) : Lobby :=
  operations.foldl next lobby

/-- The reading and the chance with which an event tries to make a token, if it does. -/
def attempt? (lobby : Lobby) : Event → Option (Int × Chance)
  | .turn caller chance =>
    match lobby.waiting caller with
    | some reading => if lobby.keeper.isExpiredAt reading then some (reading, chance) else none
    | none => none
  | .renew chance => some (lobby.clock, chance)
  | _ => none

/-- Whether a token is made in an operation. -/
def isMint (lobby : Lobby) : Operation → Bool
  | .event event =>
    match lobby.attempt? event with
    | some (now, chance) => (lobby.keeper.credential.mint now chance).isOk
    | none => false
  | _ => false

/-- In how many operations of a run a token is made. -/
def mintCount (lobby : Lobby) : List Operation → Nat
  | [] => 0
  | operation :: rest =>
    (if lobby.isMint operation then 1 else 0) + (lobby.next operation).mintCount rest

variable {lobby : Lobby} {start : Int} {credential : Credential} {now : Int} {chance : Chance}
  {token : BearerToken} {event : Event}

/-! ### One event -/

/-- **All that an event may do to the keeper**: try to make a token, or nothing, or forget it. -/
theorem keeper_step (lobby : Lobby) (event : Event) :
    (∃ now chance, lobby.attempt? event = some (now, chance) ∧
      (lobby.step event).keeper = (lobby.keeper.renew now chance).2) ∨
    (lobby.attempt? event = none ∧ (lobby.step event).keeper = lobby.keeper) ∨
    event = .clear ∧ lobby.attempt? event = none ∧ (lobby.step event).keeper = lobby.keeper.clear := by
  cases event with
  | pass seconds => exact .inr (.inl ⟨rfl, rfl⟩)
  | enter caller => exact .inr (.inl ⟨rfl, rfl⟩)
  | renew chance => exact .inl ⟨lobby.clock, chance, rfl, rfl⟩
  | clear => exact .inr (.inr ⟨rfl, rfl, rfl⟩)
  | turn caller chance =>
    cases waits : lobby.waiting caller with
    | none =>
      have absent : lobby.turn? caller chance = none := by rw [turn?, waits, Option.map_none]
      exact .inr (.inl ⟨by rw [attempt?, waits], by rw [step_of_absent absent]⟩)
    | some reading =>
      have taken : lobby.turn? caller chance = some (lobby.keeper.turn ⟨reading, chance⟩) :=
        turn?_eq_some_iff.mpr ⟨reading, waits, rfl⟩
      have kept : (lobby.step (.turn caller chance)).keeper =
          (lobby.keeper.provide reading chance).2 := by rw [step_of_taken taken]; rfl
      cases spent : lobby.keeper.isExpiredAt reading with
      | true =>
        refine .inl ⟨reading, chance, ?_, ?_⟩
        · rw [attempt?, waits]
          exact if_pos spent
        · rw [kept, Keeper.provide_of_expired spent]
      | false =>
        obtain ⟨token, held, lasting⟩ := Keeper.isExpiredAt_eq_false_iff.mp spent
        refine .inr (.inl ⟨?_, ?_⟩)
        · rw [attempt?, waits]
          exact if_neg (Bool.eq_false_iff.mp spent)
        · rw [kept, Keeper.provide_of_lasting held lasting]

/-- Who tries to make a token has read the clock just now, or before it waited for its turn and found
that the token is over. -/
theorem attempt?_cases (tried : lobby.attempt? event = some (now, chance)) :
    event = .renew chance ∧ now = lobby.clock ∨
    ∃ caller, event = .turn caller chance ∧ lobby.waiting caller = some now ∧
      lobby.keeper.isExpiredAt now = true := by
  cases event with
  | pass seconds => cases tried
  | enter caller => cases tried
  | clear => cases tried
  | renew chance =>
    cases tried
    exact .inl ⟨rfl, rfl⟩
  | turn caller chance =>
    rw [attempt?] at tried
    cases waits : lobby.waiting caller with
    | none =>
      rw [waits] at tried
      cases tried
    | some reading =>
      rw [waits] at tried
      obtain ⟨spent, same⟩ := Option.ite_none_right_eq_some.mp tried
      cases same
      exact .inr ⟨caller, rfl, waits, spent⟩

/-! ### The invariant -/

/-- The lobby of a credential since some time: all readings were taken since then, and the token that
is held was made by the credential with such a reading. -/
structure Kept (credential : Credential) (start : Int) (lobby : Lobby) : Prop where
  owner : lobby.keeper.credential = credential
  begun : start ≤ lobby.clock
  read : ∀ caller reading, lobby.waiting caller = some reading →
    start ≤ reading ∧ reading ≤ lobby.clock
  made : ∀ token ∈ lobby.keeper.current, ∃ now chance, credential.mint now chance = .ok token ∧
    start ≤ now ∧ now ≤ lobby.clock

theorem kept_ofKeeper (credential : Credential) (start : Int) :
    (ofKeeper start (.ofCredential credential)).Kept credential start where
  owner := rfl
  begun := le_refl start
  read := fun _ _ waits => by cases waits
  made := fun _ held => by cases held

/-- The time of an attempt has come. -/
theorem Kept.attempt_le (kept : lobby.Kept credential start)
    (tried : lobby.attempt? event = some (now, chance)) : start ≤ now ∧ now ≤ lobby.clock := by
  obtain ⟨_, rfl⟩ | ⟨caller, _, waits, _⟩ := attempt?_cases tried
  · exact ⟨kept.begun, le_refl _⟩
  · exact kept.read caller now waits

/-- **What an event does to the token that is held**: it stays, or one is made in its place with a
reading that was taken since the start, or it is forgotten. -/
theorem Kept.current_step (kept : lobby.Kept credential start) (event : Event) :
    (lobby.step event).keeper.current = lobby.keeper.current ∨
    (∃ now chance token, lobby.attempt? event = some (now, chance) ∧
      credential.mint now chance = .ok token ∧ (lobby.step event).keeper.current = some token) ∨
    event = .clear ∧ (lobby.step event).keeper.current = none := by
  obtain ⟨now, chance, tried, renewed⟩ | ⟨_, same⟩ | ⟨clear, _, cleared⟩ := lobby.keeper_step event
  · obtain ⟨token, minted, made⟩ | ⟨_, _, failed⟩ := lobby.keeper.renew_cases now chance
    · rw [kept.owner] at minted
      exact .inr (.inl ⟨now, chance, token, tried, minted, by rw [renewed, made]; rfl⟩)
    · exact .inl (by rw [renewed, failed])
  · exact .inl (by rw [same])
  · exact .inr (.inr ⟨clear, by rw [cleared, Keeper.clear_current]⟩)

theorem credential_step (lobby : Lobby) (event : Event) :
    (lobby.step event).keeper.credential = lobby.keeper.credential := by
  obtain ⟨now, chance, _, renewed⟩ | ⟨_, same⟩ | ⟨_, _, cleared⟩ := lobby.keeper_step event
  · obtain ⟨_, _, made⟩ | ⟨_, _, failed⟩ := lobby.keeper.renew_cases now chance
    · rw [renewed, made, Keeper.keep_credential]
    · rw [renewed, failed]
  · rw [same]
  · rw [cleared, Keeper.clear_credential]

theorem Kept.step (kept : lobby.Kept credential start) (event : Event) :
    (lobby.step event).Kept credential start where
  owner := (lobby.credential_step event).trans kept.owner
  begun := kept.begun.trans (lobby.clock_le_step event)
  read := by
    intro caller reading waits
    have later := lobby.clock_le_step event
    rcases waiting_step waits with before | rfl
    · obtain ⟨low, high⟩ := kept.read caller reading before
      exact ⟨low, high.trans later⟩
    · exact ⟨kept.begun, later⟩
  made := by
    intro token held
    have later := lobby.clock_le_step event
    obtain same | ⟨now, chance, made, tried, minted, current⟩ | ⟨_, none⟩ := kept.current_step event
    · rw [same] at held
      obtain ⟨now, chance, minted, low, high⟩ := kept.made token held
      exact ⟨now, chance, minted, low, high.trans later⟩
    · rw [current, Option.mem_some_iff] at held
      obtain ⟨low, high⟩ := kept.attempt_le tried
      exact ⟨now, chance, held ▸ minted, low, high.trans later⟩
    · rw [none] at held
      cases held

theorem Kept.next (kept : lobby.Kept credential start) (operation : Operation) :
    (lobby.next operation).Kept credential start := by
  cases operation with
  | event event => exact kept.step event
  | current => exact kept
  | isExpired => exact kept

/-- **The invariant holds in every run.** -/
theorem Kept.afterAll (kept : lobby.Kept credential start) (operations : List Operation) :
    (lobby.afterAll operations).Kept credential start := by
  induction operations generalizing lobby with
  | nil => exact kept
  | cons operation rest ih => exact ih (kept.next operation)

/-! ### Tokens that are held for good -/

/-- A token that is held when an attempt is made lasts no longer than the one that is made. -/
theorem Kept.expiresAt_le_of_attempt (kept : lobby.Kept credential start)
    (tried : lobby.attempt? event = some (now, chance)) (held : lobby.keeper.current = some token) :
    token.expiresAt ≤ now + 3600 := by
  obtain ⟨_, rfl⟩ | ⟨_, _, _, spent⟩ := attempt?_cases tried
  · obtain ⟨made, chance, minted, _, high⟩ := kept.made token held
    have expires : token.expiresAt = made + 3600 := Credential.expiresAt_of_mint minted
    omega
  -- The token that is held was over at the reading, however long ago that was taken.
  · have passed : token.expiresAt ≤ now := Keeper.isExpiredAt_iff.mp spent token held
    omega

theorem Kept.held_next (kept : lobby.Kept credential start) {operation : Operation}
    (kind : operation ≠ .event .clear) (held : lobby.keeper.current = some token) :
    ∃ later, (lobby.next operation).keeper.current = some later ∧
      token.expiresAt ≤ later.expiresAt := by
  cases operation with
  | current => exact ⟨token, held, le_refl _⟩
  | isExpired => exact ⟨token, held, le_refl _⟩
  | event event =>
    obtain same | ⟨now, chance, made, tried, minted, current⟩ | ⟨clear, _⟩ := kept.current_step event
    · exact ⟨token, same.trans held, le_refl _⟩
    · have expires : made.expiresAt = now + 3600 := Credential.expiresAt_of_mint minted
      exact ⟨made, current, expires ▸ kept.expiresAt_le_of_attempt tried held⟩
    · exact absurd (congrArg Operation.event clear) kind

/-- **Without forgetting, a token is held for good**, and lasts no shorter than before. -/
theorem Kept.held_afterAll (kept : lobby.Kept credential start) {operations : List Operation}
    (kind : .event .clear ∉ operations) (held : lobby.keeper.current = some token) :
    ∃ later, (lobby.afterAll operations).keeper.current = some later ∧
      token.expiresAt ≤ later.expiresAt := by
  induction operations generalizing lobby token with
  | nil => exact ⟨token, held, le_refl _⟩
  | cons operation rest ih =>
    rw [List.mem_cons, not_or] at kind
    obtain ⟨middle, held, longer⟩ := kept.held_next (Ne.symm kind.1) held
    obtain ⟨later, held, longest⟩ := ih (kept.next operation) kind.2 held
    exact ⟨later, held, longer.trans longest⟩

/-! ### Counting -/

theorem minted_step (lobby : Lobby) (event : Event) :
    (lobby.step event).keeper.minted =
      lobby.keeper.minted + if lobby.isMint (.event event) then 1 else 0 := by
  obtain ⟨now, chance, tried, renewed⟩ | ⟨idle, same⟩ | ⟨_, idle, cleared⟩ := lobby.keeper_step event
  · obtain ⟨token, minted, made⟩ | ⟨failure, unminted, failed⟩ := lobby.keeper.renew_cases now chance
    · rw [renewed, made, isMint, tried, Keeper.keep_minted]
      simp only [minted, Except.isOk, Except.toBool, if_true]
    · rw [renewed, failed, isMint, tried]
      simp only [unminted, Except.isOk, Except.toBool, Bool.false_eq_true, if_false, Nat.add_zero]
  · rw [same, isMint, idle]
    rfl
  · rw [cleared, isMint, idle]
    rfl

/-- **As many tokens are counted as were made.** -/
theorem minted_afterAll (lobby : Lobby) (operations : List Operation) :
    (lobby.afterAll operations).keeper.minted =
      lobby.keeper.minted + lobby.mintCount operations := by
  induction operations generalizing lobby with
  | nil => rfl
  | cons operation rest ih =>
    have here : (lobby.next operation).keeper.minted =
        lobby.keeper.minted + if lobby.isMint operation then 1 else 0 := by
      cases operation with
      | event event => exact lobby.minted_step event
      | current => rfl
      | isExpired => rfl
    have later := ih (lobby.next operation)
    rw [here] at later
    rw [mintCount, ← Nat.add_assoc]
    exact later

/-! ### Failures -/

/-- **Failures change nothing.** -/
theorem keeper_next_of_failure {operation : Operation}
    (failed : (lobby.answer operation).IsFailure) :
    (lobby.next operation).keeper = lobby.keeper := by
  cases operation with
  | current => rfl
  | isExpired => rfl
  | event event =>
    cases event with
    | pass seconds => cases failed
    | enter caller => cases failed
    | clear => cases failed
    | renew chance =>
      obtain ⟨token, _, made⟩ | ⟨failure, _, unmade⟩ := lobby.keeper.renew_cases lobby.clock chance
      · rw [answer, made] at failed
        cases failed
      · show (lobby.keeper.renew lobby.clock chance).2 = lobby.keeper
        rw [unmade]
    | turn caller chance =>
      cases taken : lobby.turn? caller chance with
      | none => rw [next, step_of_absent taken]
      | some turn =>
        obtain ⟨reading, _, rfl⟩ := turn?_eq_some_iff.mp taken
        rw [next, step_of_taken taken]
        rw [answer, taken] at failed
        show (lobby.keeper.provide reading chance).2 = lobby.keeper
        obtain ⟨_, _, _, provided⟩ | ⟨_, _, _, provided⟩ | ⟨_, _, _, provided⟩ :=
          lobby.keeper.provide_cases reading chance
        · rw [provided]
        · simp only [Keeper.turn, provided, Answer.IsFailure] at failed
        · rw [provided]

/-! ### Every run -/

/-- **The upkeep of tokens in every run**, whatever is done, and in whatever order callers have their
turns. A token that is held lasts an hour from a time that has come, and says so itself, with its
issuer and its app; as many are counted as were made; one that is held stays until it is forgotten or
replaced by one that lasts no shorter; failures change nothing; and a keeper says that it is expired
exactly when a caller who came and had its turn now would try to make a token. -/
theorem upkeep {operations : List Operation}
    (reached : (ofKeeper start (.ofCredential credential)).afterAll operations = lobby)
    (low : Int64.minValue.toInt ≤ start) (high : lobby.clock + 3600 ≤ Int64.maxValue.toInt) :
    (∀ token, lobby.keeper.current = some token →
      token.expiresAt = token.issuedAt + 3600 ∧ token.issuedAt ≤ lobby.clock ∧
      ∃ claims, token.Says claims ∧ claims.issuerId = credential.issuerId ∧
        claims.bundleId = credential.bundleId ∧ claims.issuedAt.toInt = token.issuedAt ∧
        claims.expiresAt.toInt = token.expiresAt) ∧
    lobby.keeper.minted = (ofKeeper start (.ofCredential credential)).mintCount operations ∧
    (∀ later, .event .clear ∉ later → ∀ token, lobby.keeper.current = some token →
      ∃ token', (lobby.afterAll later).keeper.current = some token' ∧
        token.expiresAt ≤ token'.expiresAt) ∧
    (∀ operation, (lobby.answer operation).IsFailure →
      (lobby.next operation).keeper = lobby.keeper) ∧
    ∀ chance,
      (lobby.answer .isExpired = .expired true ↔
        lobby.keeper.provide lobby.clock chance =
          ((lobby.keeper.renew lobby.clock chance).1.map (·.text),
            (lobby.keeper.renew lobby.clock chance).2)) ∧
      (lobby.answer .isExpired = .expired false ↔
        ∃ token, lobby.keeper.current = some token ∧
          lobby.keeper.provide lobby.clock chance = (.ok token.text, lobby.keeper)) := by
  have kept : lobby.Kept credential start :=
    reached ▸ (kept_ofKeeper credential start).afterAll operations
  refine ⟨?_, ?_, ?_, fun operation failed => keeper_next_of_failure failed, ?_⟩
  · intro token held
    obtain ⟨now, chance, minted, begun, come⟩ := kept.made token held
    obtain ⟨_, _, rfl⟩ := Credential.mint_eq_ok_iff.mp minted
    have least : Int64.minValue.toInt ≤ now := low.trans begun
    have greatest : now + BearerToken.lifetime ≤ Int64.maxValue.toInt :=
      (Int.add_le_add_right come _).trans high
    exact ⟨rfl, come, _, Credential.says_of_mint minted least greatest, rfl, rfl,
      credential.issuedAt_claimsAt least greatest _, credential.expiresAt_claimsAt least greatest _⟩
  · rw [← reached, minted_afterAll]
    exact Nat.zero_add _
  · intro later kind token held
    exact kept.held_afterAll kind held
  · intro chance
    obtain ⟨tries, gives⟩ := lobby.keeper.isExpiredAt_iff_provide lobby.clock chance
    rw [← tries, ← gives]
    exact ⟨by rw [answer, Answer.expired.injEq], by rw [answer, Answer.expired.injEq]⟩

end Lobby

namespace Specimen

/-- One caller has its turn at once; another waits for a second, in which the token is asked about. -/
def operations : List Lobby.Operation :=
  [.event (.enter 0), .event (.turn 0 firstCall.chance), .isExpired, .event (.pass 3599),
    .event (.enter 1), .event (.pass 1), .current]

theorem lobby_reached :
    (Lobby.ofKeeper 0 (.ofCredential credential)).afterAll operations = lobby := rfl

theorem mintCount_operations :
    (Lobby.ofKeeper 0 (.ofCredential credential)).mintCount operations = 1 := by
  decide +kernel

theorem keeper_lobby : lobby.keeper = keeper := by
  simp [lobby, Lobby.after, Lobby.step, Lobby.turn?, Lobby.ofKeeper, keeper, firstCall]

/-- One token was made and is held. It lasts an hour and says so. -/
theorem lobby_upkeep : Int64.minValue.toInt ≤ 0 ∧ lobby.clock + 3600 ≤ Int64.maxValue.toInt ∧
    lobby.keeper.minted = 1 ∧
    ∃ token, lobby.keeper.current = some token ∧ ∃ claims, token.Says claims ∧
      claims.issuerId = "issuer" ∧ claims.expiresAt.toInt = token.issuedAt + 3600 := by
  have low : Int64.minValue.toInt ≤ 0 := by decide
  have high : lobby.clock + 3600 ≤ Int64.maxValue.toInt := by
    rw [clock_lobby]
    decide
  obtain ⟨token, held, _⟩ := keeper_lobby ▸ current_keeper
  obtain ⟨tokens, count, _⟩ := Lobby.upkeep lobby_reached low high
  obtain ⟨lasts, _, claims, said, issuer, _, _, expires⟩ := tokens token held
  exact ⟨low, high, count.trans mintCount_operations, token, held, claims, said, issuer,
    expires.trans lasts⟩

end Specimen

end SignedPurchase
