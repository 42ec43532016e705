import SignedPurchase.Proofs.Bearer.Turns
import Mathlib.Data.Int.Order.Basic
import Mathlib.Logic.Function.Basic

/-
**Callers that wait while the clock goes on.**

A caller reads the clock when it comes, and its turn may come any time later. Whether the token that is
held still lasts is decided with the reading.

* `Lobby.after` is what events lead to: time passes, callers come, and have their turns;
* `Lobby.punctual_after`: no caller has read a time that is still to come;
* `Keeper.turn_isStaleAt_iff`: a bearer is stale exactly when the time of its token ran out between the
  reading and the turn, and `Keeper.turn_not_isStaleAt`: none is when the reading is that of the turn,
  as it is when a token is made in any case (`Keeper.isExpiredAt_of_renew`);
* `Lobby.stale_iff_lapsed` puts this together for all runs;
* `Specimen.stale_after_wait`: one second of waiting is enough for a stale bearer.
-/

namespace SignedPurchase

/-- Whether the bearer given in a turn is that of a token whose time is over at some time. -/
def Turn.IsStaleAt (turn : Turn) (now : Int) : Prop :=
  ∃ token, turn.after.current = some token ∧ turn.result = .ok token.text ∧
    token.isExpiredAt now = true

/-! ### Stale bearers -/

namespace Keeper

variable {keeper : Keeper} {call : Call} {now : Int} {chance : Chance}

/-- **A bearer is stale when the time of its token ran out after the reading**: that of the token that
was held and lasted at the reading, or the whole hour of one that was made. -/
theorem turn_isStaleAt_iff :
    (keeper.turn call).IsStaleAt now ↔
      (∃ token, keeper.current = some token ∧ call.reading < token.expiresAt ∧
        token.expiresAt ≤ now) ∨
      (keeper.isExpiredAt call.reading = true ∧ keeper.credential.IsUsable ∧
        call.reading + 3600 ≤ now) := by
  refine ⟨?_, ?_⟩
  · rintro ⟨token, kept, given, spent⟩
    have due : token.expiresAt ≤ now := BearerToken.isExpiredAt_iff.mp spent
    rcases keeper.provide_cases call.reading call.chance with
      ⟨held, current, lasting, provided⟩ | ⟨lapsed, made, minted, provided⟩ | ⟨_, _, _, provided⟩
    · have same : some held = some token := by rw [← current, ← kept, turn, provided]
      obtain rfl := Option.some.inj same
      exact .inl ⟨held, current, lasting, due⟩
    · have same : some made = some token := by rw [← kept, turn, provided, keep_current]
      obtain rfl := Option.some.inj same
      obtain ⟨key, usable, _⟩ := Credential.mint_eq_ok_iff.mp minted
      have expires : made.expiresAt = call.reading + 3600 := Credential.expiresAt_of_mint minted
      exact .inr ⟨lapsed, ⟨key, usable⟩, by omega⟩
    -- A turn that fails gives no bearer at all.
    · rw [turn, provided] at given
      cases given
  · rintro (⟨token, held, lasting, due⟩ | ⟨spent, usable, due⟩)
    · rw [turn_of_lasting held lasting]
      exact ⟨token, held, rfl, BearerToken.isExpiredAt_iff.mpr due⟩
    · obtain ⟨token, minted⟩ := Credential.exists_mint usable call.reading call.chance
      have expires : token.expiresAt = call.reading + 3600 := Credential.expiresAt_of_mint minted
      rw [turn_of_mint spent minted]
      exact ⟨token, rfl, rfl, BearerToken.isExpiredAt_iff.mpr (by omega)⟩

/-- **No bearer is stale at the reading.** Had every caller read the clock in its turn, none would be
stale at all. -/
theorem turn_not_isStaleAt : ¬ (keeper.turn call).IsStaleAt call.reading := by
  intro stale
  rcases turn_isStaleAt_iff.mp stale with ⟨token, _, lasting, due⟩ | ⟨_, _, due⟩
  · exact absurd lasting (Int.not_lt.mpr due)
  · omega

/-- A token that is made in any case is made at the time of the turn, and lasts then. -/
theorem isExpiredAt_of_renew {token : BearerToken}
    (renewed : (keeper.renew now chance).1 = .ok token) : token.isExpiredAt now = false := by
  unfold renew at renewed
  split at renewed
  · next made minted =>
    cases renewed
    have expires : token.expiresAt = now + 3600 := Credential.expiresAt_of_mint minted
    exact BearerToken.isExpiredAt_eq_false_iff.mpr (by omega)
  · cases renewed

end Keeper

/-! ### A clock that goes on -/

/-- Callers who wait for their turns with one keeper, and the clock. -/
structure Lobby where
  clock : Int
  keeper : Keeper
  /-- What the callers who wait read from the clock when they came. -/
  waiting : Nat → Option Int

namespace Lobby

/-- What may happen. -/
inductive Event where
  /-- Time passes. -/
  | pass (seconds : Nat)
  /-- A caller comes and reads the clock. -/
  | enter (caller : Nat)
  /-- A caller has its turn. -/
  | turn (caller : Nat) (chance : Chance)
  /-- A token is made in any case. -/
  | renew (chance : Chance)
  /-- The token is forgotten. -/
  | clear

/-- Nobody waits yet. -/
def ofKeeper (clock : Int) (keeper : Keeper) : Lobby :=
  ⟨clock, keeper, fun _ => none⟩

/-- The turn of a caller, if it waits for one. -/
def turn? (lobby : Lobby) (caller : Nat) (chance : Chance) : Option Turn :=
  (lobby.waiting caller).map fun reading => lobby.keeper.turn ⟨reading, chance⟩

/-- What an event leads to. -/
def step (lobby : Lobby) : Event → Lobby
  | .pass seconds => { lobby with clock := lobby.clock + seconds }
  | .enter caller =>
    { lobby with waiting := Function.update lobby.waiting caller (some lobby.clock) }
  | .turn caller chance =>
    match lobby.turn? caller chance with
    | some turn =>
      { lobby with keeper := turn.after, waiting := Function.update lobby.waiting caller none }
    | none => lobby
  | .renew chance => { lobby with keeper := (lobby.keeper.renew lobby.clock chance).2 }
  | .clear => { lobby with keeper := lobby.keeper.clear }

/-- What events lead to, the first of them first. -/
def after (lobby : Lobby) (events : List Event) : Lobby :=
  events.foldl step lobby

variable {lobby : Lobby} {caller : Nat} {chance : Chance} {turn : Turn}

theorem turn?_eq_some_iff :
    lobby.turn? caller chance = some turn ↔
      ∃ reading, lobby.waiting caller = some reading ∧
        lobby.keeper.turn ⟨reading, chance⟩ = turn :=
  Option.map_eq_some_iff

theorem step_of_taken (taken : lobby.turn? caller chance = some turn) :
    lobby.step (.turn caller chance) =
      { lobby with keeper := turn.after, waiting := Function.update lobby.waiting caller none } := by
  rw [step, taken]

theorem step_of_absent (absent : lobby.turn? caller chance = none) :
    lobby.step (.turn caller chance) = lobby := by
  rw [step, absent]

theorem clock_le_step (lobby : Lobby) (event : Event) : lobby.clock ≤ (lobby.step event).clock := by
  cases event with
  | pass seconds => exact Int.le_add_of_nonneg_right (Int.natCast_nonneg seconds)
  | enter caller => exact le_refl _
  | renew chance => exact le_refl _
  | clear => exact le_refl _
  | turn caller chance =>
    cases taken : lobby.turn? caller chance with
    | none => rw [step_of_absent taken]
    | some turn => rw [step_of_taken taken]

theorem eq_some_of_update {waiting : Nat → Option Int} {caller other : Nat} {entry : Option Int}
    {reading : Int} (waits : Function.update waiting other entry caller = some reading) :
    waiting caller = some reading ∨ entry = some reading := by
  by_cases same : caller = other
  · rw [same, Function.update_self] at waits
    exact .inr waits
  · rw [Function.update_of_ne same] at waits
    exact .inl waits

/-- A caller that waits has waited before, or read the clock just now. -/
theorem waiting_step {event : Event} {reading : Int}
    (waits : (lobby.step event).waiting caller = some reading) :
    lobby.waiting caller = some reading ∨ reading = lobby.clock := by
  cases event with
  | pass seconds => exact .inl waits
  | renew chance => exact .inl waits
  | clear => exact .inl waits
  | enter newcomer =>
    exact (eq_some_of_update waits).imp_right fun read => (Option.some.inj read).symm
  | turn next chance =>
    cases taken : lobby.turn? next chance with
    | none =>
      rw [step_of_absent taken] at waits
      exact .inl waits
    | some turn =>
      rw [step_of_taken taken] at waits
      exact (eq_some_of_update waits).imp_right nofun

/-- No caller has read a time that is still to come. -/
def Punctual (lobby : Lobby) : Prop :=
  ∀ caller reading, lobby.waiting caller = some reading → reading ≤ lobby.clock

theorem punctual_ofKeeper (clock : Int) (keeper : Keeper) : (ofKeeper clock keeper).Punctual := by
  intro caller reading waits
  cases waits

theorem punctual_step (punctual : lobby.Punctual) (event : Event) : (lobby.step event).Punctual := by
  intro caller reading waits
  have later := lobby.clock_le_step event
  rcases waiting_step waits with before | rfl
  · exact le_trans (punctual caller reading before) later
  · exact later

/-- **No caller has ever read a time that is still to come**: those who come read the clock, and the
clock never goes back. -/
theorem punctual_after (punctual : lobby.Punctual) (events : List Event) :
    (lobby.after events).Punctual := by
  induction events generalizing lobby with
  | nil => exact punctual
  | cons event rest ih => exact ih (punctual_step punctual event)

/-- **When bearers are stale.** Whatever happens, and whenever a caller has its turn: its reading is
not ahead of the clock, its bearer is that of the token held after the turn, which lasts at the
reading; and at the time of the turn that bearer is stale exactly when the time of the token ran out
in the wait: that of a token which was held at the turn, or the whole hour of one which was made in
it. -/
theorem stale_iff_lapsed {start : Int} {keeper : Keeper} {events : List Event}
    (reached : (ofKeeper start keeper).after events = lobby)
    (taken : lobby.turn? caller chance = some turn) :
    turn.call.reading ≤ lobby.clock ∧
    (∀ text, turn.result = .ok text → ∃ token, turn.after.current = some token ∧
      text = token.text ∧ token.isExpiredAt turn.call.reading = false) ∧
    (turn.IsStaleAt lobby.clock ↔
      (∃ token, turn.before.current = some token ∧ turn.call.reading < token.expiresAt ∧
        token.expiresAt ≤ lobby.clock) ∨
      (turn.before.isExpiredAt turn.call.reading = true ∧ turn.before.credential.IsUsable ∧
        turn.call.reading + 3600 ≤ lobby.clock)) := by
  obtain ⟨reading, waits, rfl⟩ := turn?_eq_some_iff.mp taken
  have punctual : lobby.Punctual := reached ▸ punctual_after (punctual_ofKeeper start keeper) events
  exact ⟨punctual caller reading waits, fun text given => Keeper.turn_given given,
    Keeper.turn_isStaleAt_iff⟩

end Lobby

namespace Specimen

/-- The call of a keeper's first caller. -/
def firstCall : Call := ⟨0, ⟨"first", 1⟩⟩

/-- A caller that comes an hour later, but for a second. -/
def lateCall : Call := ⟨3599, ⟨"second", 2⟩⟩

/-- The keeper when the first caller has had its turn. -/
def keeper : Keeper :=
  ((Keeper.ofCredential credential).turn firstCall).after

/-- The first caller has its turn at once, but that of the late caller takes a second. -/
def lobby : Lobby :=
  (Lobby.ofKeeper 0 (.ofCredential credential)).after
    [.enter 0, .turn 0 firstCall.chance, .pass 3599, .enter 1, .pass 1]

theorem clock_lobby : lobby.clock = 3600 := by
  simp [lobby, Lobby.after, Lobby.step, Lobby.turn?, Lobby.ofKeeper]

theorem turn?_lobby : lobby.turn? 1 lateCall.chance = some (keeper.turn lateCall) := by
  simp [lobby, Lobby.after, Lobby.step, Lobby.turn?, Lobby.ofKeeper, lateCall, keeper, firstCall]

theorem current_keeper : ∃ token, keeper.current = some token ∧ token.expiresAt = 3600 := by
  have fresh : (Keeper.ofCredential credential).isExpiredAt firstCall.reading = true := rfl
  obtain ⟨token, minted⟩ := Credential.exists_mint usable firstCall.reading firstCall.chance
  refine ⟨token, ?_, Credential.expiresAt_of_mint minted⟩
  rw [keeper, Keeper.turn_of_mint fresh minted]
  exact Keeper.keep_current

/-- **One second of waiting is enough for a stale bearer.** The token that was made for the first
caller still lasts at the reading of the late one, but no more at its turn. -/
theorem stale_after_wait : lobby.turn? 1 lateCall.chance = some (keeper.turn lateCall) ∧
    lobby.clock = 3600 ∧ (keeper.turn lateCall).IsStaleAt 3600 := by
  obtain ⟨token, held, expires⟩ := current_keeper
  have lasting : lateCall.reading < token.expiresAt := by
    rw [expires]
    decide
  exact ⟨turn?_lobby, clock_lobby,
    Keeper.turn_isStaleAt_iff.mpr (.inl ⟨token, held, lasting, Int.le_of_eq expires⟩)⟩

/-- All the same, this bearer lasts at the reading, which is not ahead of the clock. -/
theorem late_given : lobby.turn? 1 lateCall.chance = some (keeper.turn lateCall) ∧
    lateCall.reading ≤ lobby.clock ∧
    ∀ text, (keeper.turn lateCall).result = .ok text → ∃ token,
      (keeper.turn lateCall).after.current = some token ∧ text = token.text ∧
      token.isExpiredAt lateCall.reading = false := by
  obtain ⟨read, given, _⟩ := Lobby.stale_iff_lapsed rfl turn?_lobby
  exact ⟨turn?_lobby, read, given⟩

end Specimen

end SignedPurchase
