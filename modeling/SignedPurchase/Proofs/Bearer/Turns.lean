import SignedPurchase.Proofs.Bearer.Keeping

/-
**Callers that take their turns.**

Every caller reads the clock before it waits for its turn, so the readings reach the keeper in any
order. A keeper makes few tokens all the same.

* `Keeper.turns` are the turns of a list of calls, one after the other;
* `Keeper.mintReadings_pairwise`: the readings with which tokens are made lie an hour apart. The
  invariant is that none is made before the time of the token that is held is over
  (`Keeper.expiresAt_le_of_mem_mintReadings`);
* `Keeper.turns_of_lasting`: nothing is made while the token that is held lasts;
* `Keeper.turns_sparing` puts together what holds of any calls in any order.
-/

namespace SignedPurchase

/-- A caller that wants a bearer: what it read from the clock, and the chance of a token made for
it. -/
structure Call where
  reading : Int
  chance : Chance
  deriving DecidableEq, Repr

/-- The turn of a caller. -/
structure Turn where
  call : Call
  before : Keeper
  result : Outcome String
  after : Keeper

/-- Whether a token is made in a turn. -/
def Turn.isMint (turn : Turn) : Bool :=
  turn.before.minted < turn.after.minted

namespace Keeper

/-- The turn of a call. -/
def turn (keeper : Keeper) (call : Call) : Turn where
  call := call
  before := keeper
  result := (keeper.provide call.reading call.chance).1
  after := (keeper.provide call.reading call.chance).2

/-- The turns of calls, the first of them first. -/
def turns (keeper : Keeper) : List Call → List Turn
  | [] => []
  | call :: rest => keeper.turn call :: (keeper.turn call).after.turns rest

/-- The keeper when all calls have had their turns. -/
def afterTurns (keeper : Keeper) (calls : List Call) : Keeper :=
  calls.foldl (fun keeper call => (keeper.turn call).after) keeper

/-- The readings with which tokens are made, the first of them first. -/
def mintReadings (keeper : Keeper) (calls : List Call) : List Int :=
  ((keeper.turns calls).filter (·.isMint)).map (·.call.reading)

variable {keeper : Keeper} {call : Call} {calls rest order : List Call} {token : BearerToken}

/-! ### One turn -/

theorem turn_of_lasting (held : keeper.current = some token)
    (lasting : call.reading < token.expiresAt) :
    keeper.turn call = ⟨call, keeper, .ok token.text, keeper⟩ := by
  rw [turn, provide_of_lasting held lasting]

theorem turn_of_mint (spent : keeper.isExpiredAt call.reading = true)
    (minted : keeper.credential.mint call.reading call.chance = .ok token) :
    keeper.turn call = ⟨call, keeper, .ok token.text, keeper.keep token⟩ := by
  rw [turn, provide_of_mint spent minted]

/-- **The turn of a keeper that can make tokens**: it gives the token that it holds, or, when none
that it holds lasts, one that is made for an hour from the reading. -/
theorem turn_cases (usable : keeper.credential.IsUsable) (call : Call) :
    (∃ token, keeper.current = some token ∧ call.reading < token.expiresAt ∧
      keeper.turn call = ⟨call, keeper, .ok token.text, keeper⟩) ∨
    (keeper.isExpiredAt call.reading = true ∧ ∃ token, token.expiresAt = call.reading + 3600 ∧
      keeper.turn call = ⟨call, keeper, .ok token.text, keeper.keep token⟩) := by
  cases spent : keeper.isExpiredAt call.reading with
  | false =>
    obtain ⟨token, held, lasting⟩ := isExpiredAt_eq_false_iff.mp spent
    exact .inl ⟨token, held, lasting, turn_of_lasting held lasting⟩
  | true =>
    obtain ⟨token, minted⟩ := Credential.exists_mint usable call.reading call.chance
    exact .inr ⟨rfl, token, Credential.expiresAt_of_mint minted, turn_of_mint spent minted⟩

@[simp]
theorem turn_after_credential (keeper : Keeper) (call : Call) :
    (keeper.turn call).after.credential = keeper.credential := by
  unfold turn
  rcases keeper.provide_cases call.reading call.chance with
    ⟨_, _, _, given⟩ | ⟨_, _, _, given⟩ | ⟨_, _, _, given⟩ <;>
    rw [given]
  rw [keep_credential]

/-- **The bearer of a turn** is that of the token held after it, which lasts at the reading. -/
theorem turn_given {text : String} (given : (keeper.turn call).result = .ok text) :
    ∃ token, (keeper.turn call).after.current = some token ∧ text = token.text ∧
      token.isExpiredAt call.reading = false := by
  unfold turn at given ⊢
  rcases keeper.provide_cases call.reading call.chance with
    ⟨token, held, lasting, provided⟩ | ⟨_, token, minted, provided⟩ | ⟨_, _, _, provided⟩
  · rw [provided] at given ⊢
    cases given
    exact ⟨token, held, rfl, BearerToken.isExpiredAt_eq_false_iff.mpr lasting⟩
  · rw [provided] at given ⊢
    cases given
    have expires : token.expiresAt = call.reading + 3600 := Credential.expiresAt_of_mint minted
    exact ⟨token, rfl, rfl, BearerToken.isExpiredAt_eq_false_iff.mpr (by omega)⟩
  · rw [provided] at given
    cases given

theorem exists_given (usable : keeper.credential.IsUsable) (call : Call) :
    ∃ text, (keeper.turn call).result = .ok text := by
  rcases turn_cases usable call with ⟨token, _, _, given⟩ | ⟨_, token, _, given⟩
  · exact ⟨token.text, by rw [given]⟩
  · exact ⟨token.text, by rw [given]⟩

/-! ### Many turns -/

theorem map_call_turns (keeper : Keeper) (calls : List Call) :
    (keeper.turns calls).map (·.call) = calls := by
  induction calls generalizing keeper with
  | nil => rfl
  | cons call rest ih => rw [turns, List.map_cons, ih]; rfl

/-- Every turn is that of a keeper of the same credential. -/
theorem exists_of_mem_turns {turn : Turn} (member : turn ∈ keeper.turns calls) :
    ∃ (before : Keeper) (call : Call),
      before.credential = keeper.credential ∧ turn = before.turn call := by
  induction calls generalizing keeper with
  | nil => cases member
  | cons call rest ih =>
    rcases List.mem_cons.mp member with rfl | member
    · exact ⟨keeper, call, rfl, rfl⟩
    · obtain ⟨before, later, same, rfl⟩ := ih member
      exact ⟨before, later, same.trans (turn_after_credential keeper call), rfl⟩

theorem mintReadings_of_kept {text : String}
    (given : keeper.turn call = ⟨call, keeper, .ok text, keeper⟩) :
    keeper.mintReadings (call :: rest) = keeper.mintReadings rest := by
  have kept : (keeper.turn call).isMint = false := by
    rw [given, Turn.isMint, decide_eq_false_iff_not]
    exact Nat.lt_irrefl _
  rw [mintReadings, turns, List.filter_cons_of_neg (by rw [kept]; decide), given]
  rfl

theorem mintReadings_of_keep {text : String}
    (given : keeper.turn call = ⟨call, keeper, .ok text, keeper.keep token⟩) :
    keeper.mintReadings (call :: rest) =
      call.reading :: (keeper.keep token).mintReadings rest := by
  have made : (keeper.turn call).isMint = true := by
    rw [given, Turn.isMint, decide_eq_true_iff]
    exact Nat.lt_succ_self _
  rw [mintReadings, turns, List.filter_cons_of_pos made, List.map_cons, given]
  rfl

theorem mem_map_of_mem_mintReadings {reading : Int} (member : reading ∈ keeper.mintReadings calls) :
    reading ∈ calls.map (·.reading) := by
  obtain ⟨turn, found, rfl⟩ := List.mem_map.mp member
  have called : turn.call ∈ (keeper.turns calls).map (·.call) :=
    List.mem_map_of_mem (List.mem_filter.mp found).1
  rw [map_call_turns] at called
  exact List.mem_map_of_mem called

/-- The count of a keeper goes up by the tokens that are made. -/
theorem afterTurns_minted (usable : keeper.credential.IsUsable) (calls : List Call) :
    (keeper.afterTurns calls).minted = keeper.minted + (keeper.mintReadings calls).length := by
  induction calls generalizing keeper with
  | nil => rfl
  | cons call rest ih =>
    show ((keeper.turn call).after.afterTurns rest).minted = _
    rcases turn_cases usable call with ⟨token, _, _, given⟩ | ⟨_, token, _, given⟩
    · rw [mintReadings_of_kept given, given, ih usable]
    · have rest : ((keeper.keep token).afterTurns rest).minted =
          keeper.minted + 1 + ((keeper.keep token).mintReadings rest).length := ih usable
      rw [mintReadings_of_keep given, given, rest, List.length_cons]
      omega

/-- **No token is made before the time of the token that is held is over.** The readings come in any
order, but each that is too early is answered with the token that is held. -/
theorem expiresAt_le_of_mem_mintReadings (usable : keeper.credential.IsUsable)
    (held : keeper.current = some token) {reading : Int}
    (member : reading ∈ keeper.mintReadings calls) : token.expiresAt ≤ reading := by
  -- Once a token is made it is the one that is held, and it expires later than the one before.
  induction calls generalizing keeper token with
  | nil => cases member
  | cons call rest ih =>
    rcases turn_cases usable call with ⟨_, _, _, given⟩ | ⟨spent, made, expires, given⟩
    · rw [mintReadings_of_kept given] at member
      exact ih usable held member
    · have due : token.expiresAt ≤ call.reading := isExpiredAt_iff.mp spent token held
      rw [mintReadings_of_keep given] at member
      rcases List.mem_cons.mp member with rfl | member
      · exact due
      · have usable : (keeper.keep made).credential.IsUsable := usable
        have later : made.expiresAt ≤ reading := ih usable keep_current member
        omega

/-- **The readings with which tokens are made lie an hour apart.** -/
theorem mintReadings_pairwise (usable : keeper.credential.IsUsable) (calls : List Call) :
    (keeper.mintReadings calls).Pairwise fun earlier later => earlier + 3600 ≤ later := by
  induction calls generalizing keeper with
  | nil => exact .nil
  | cons call rest ih =>
    rcases turn_cases usable call with ⟨_, _, _, given⟩ | ⟨_, token, expires, given⟩
    · rw [mintReadings_of_kept given]
      exact ih usable
    · rw [mintReadings_of_keep given]
      have usable : (keeper.keep token).credential.IsUsable := usable
      refine .cons (fun reading member => ?_) (ih usable)
      have due : token.expiresAt ≤ reading := expiresAt_le_of_mem_mintReadings usable rfl member
      omega

/-- As many times as lie an hour apart fit between two bounds. -/
theorem length_of_spaced {times : List Int} {low high : Int}
    (spaced : times.Pairwise fun earlier later => earlier + 3600 ≤ later)
    (above : ∀ time ∈ times, low ≤ time) (below : ∀ time ∈ times, time ≤ high)
    (ordered : low ≤ high + 3600) : 3600 * (times.length : Int) ≤ high - low + 3600 := by
  -- After the first time all others lie an hour above the lower bound.
  induction times generalizing low with
  | nil =>
    rw [List.length_nil]
    omega
  | cons first rest ih =>
    obtain ⟨apart, spaced⟩ := List.pairwise_cons.mp spaced
    have begun : low ≤ first := above first List.mem_cons_self
    have ended : first ≤ high := below first List.mem_cons_self
    have shorter : 3600 * (rest.length : Int) ≤ high - (low + 3600) + 3600 := by
      refine ih spaced (fun time member => ?_)
        (fun time member => below time (List.mem_cons_of_mem _ member)) (by omega)
      have later : first + 3600 ≤ time := apart time member
      omega
    rw [List.length_cons]
    omega

/-- **Nothing is made while the token that is held lasts**, and every caller is given it. -/
theorem turns_of_lasting (held : keeper.current = some token)
    (lasting : ∀ call ∈ calls, call.reading < token.expiresAt) :
    keeper.mintReadings calls = [] ∧ ∀ turn ∈ keeper.turns calls, turn.result = .ok token.text := by
  induction calls with
  | nil => exact ⟨rfl, fun turn member => by cases member⟩
  | cons call rest ih =>
    obtain ⟨none, given⟩ := ih fun later member => lasting later (List.mem_cons_of_mem _ member)
    have head : keeper.turn call = ⟨call, keeper, .ok token.text, keeper⟩ :=
      turn_of_lasting held (lasting call List.mem_cons_self)
    refine ⟨(mintReadings_of_kept head).trans none, fun turn member => ?_⟩
    rw [turns, head] at member
    rcases List.mem_cons.mp member with rfl | member
    · rfl
    · exact given turn member

/-- **One token is made for all callers of one hour** if none that is held lasts. The first turn
makes it, and it lasts for all others. -/
theorem turns_within_hour (usable : keeper.credential.IsUsable) {low high : Int}
    (spent : keeper.isExpiredAt low = true) (within : high - low < 3600) (called : calls ≠ [])
    (above : ∀ call ∈ calls, low ≤ call.reading) (below : ∀ call ∈ calls, call.reading ≤ high) :
    (keeper.mintReadings calls).length = 1 ∧
      ∃ text, ∀ turn ∈ keeper.turns calls, turn.result = .ok text := by
  cases calls with
  | nil => exact absurd rfl called
  | cons call rest =>
    have begun : low ≤ call.reading := above call List.mem_cons_self
    rcases turn_cases usable call with ⟨token, held, lasting, _⟩ | ⟨_, token, expires, given⟩
    · have due : token.expiresAt ≤ low := isExpiredAt_iff.mp spent token held
      omega
    · have lasting : ∀ later ∈ rest, later.reading < token.expiresAt := by
        intro later member
        have ended : later.reading ≤ high := below later (List.mem_cons_of_mem _ member)
        omega
      have held : (keeper.keep token).current = some token := keep_current
      obtain ⟨none, same⟩ := turns_of_lasting held lasting
      refine ⟨by rw [mintReadings_of_keep given, none]; rfl, token.text, fun turn member => ?_⟩
      rw [turns, given] at member
      rcases List.mem_cons.mp member with rfl | member
      · rfl
      · exact same turn member

/-! ### All calls in any order -/

/-- **Tokens are made sparingly.** Whatever a keeper holds, and in whatever order the turns of the
callers come: tokens are made with readings that lie an hour apart, so that there are at most as many
as hours have begun between the earliest reading and the latest; every caller is given the token that
is held after its turn, which lasts at its reading; and if nothing that is held lasts at the earliest
reading and less than an hour lies between the readings, one token is made and all callers are given
it. -/
theorem turns_sparing (usable : keeper.credential.IsUsable) (ordered : order.Perm calls) :
    ((keeper.mintReadings order).Pairwise fun earlier later => earlier + 3600 ≤ later) ∧
    (keeper.afterTurns order).minted = keeper.minted + (keeper.mintReadings order).length ∧
    (∀ turn ∈ keeper.turns order, ∃ token, turn.after.current = some token ∧
      turn.result = .ok token.text ∧ token.isExpiredAt turn.call.reading = false) ∧
    ∀ low high, (calls.map (·.reading)).min? = some low → (calls.map (·.reading)).max? = some high →
      ((keeper.mintReadings order).length : Int) ≤ 1 + (high - low) / 3600 ∧
      (keeper.isExpiredAt low = true → high - low < 3600 →
        (keeper.mintReadings order).length = 1 ∧
        ∃ text, ∀ turn ∈ keeper.turns order, turn.result = .ok text) := by
  refine ⟨mintReadings_pairwise usable order, afterTurns_minted usable order, ?_, ?_⟩
  · intro turn member
    obtain ⟨before, call, same, rfl⟩ := exists_of_mem_turns member
    obtain ⟨text, given⟩ := exists_given (same ▸ usable) call
    obtain ⟨token, kept, rfl, lasting⟩ := turn_given given
    exact ⟨token, kept, given, lasting⟩
  · intro low high least greatest
    obtain ⟨attained, least⟩ := List.min?_eq_some_iff.mp least
    obtain ⟨_, greatest⟩ := List.max?_eq_some_iff.mp greatest
    have same : ∀ reading, reading ∈ order.map (·.reading) ↔ reading ∈ calls.map (·.reading) :=
      fun reading => (ordered.map _).mem_iff
    have above : ∀ reading ∈ order.map (·.reading), low ≤ reading :=
      fun reading member => least reading ((same reading).mp member)
    have below : ∀ reading ∈ order.map (·.reading), reading ≤ high :=
      fun reading member => greatest reading ((same reading).mp member)
    refine ⟨?_, fun spent within => ?_⟩
    · have fits : 3600 * ((keeper.mintReadings order).length : Int) ≤ high - low + 3600 := by
        have begun : low ≤ high := greatest low attained
        exact length_of_spaced (mintReadings_pairwise usable order)
          (fun reading member => above reading (mem_map_of_mem_mintReadings member))
          (fun reading member => below reading (mem_map_of_mem_mintReadings member)) (by omega)
      omega
    · refine turns_within_hour usable spent within ?_
        (fun call member => above _ (List.mem_map_of_mem member))
        (fun call member => below _ (List.mem_map_of_mem member))
      rintro rfl
      exact List.not_mem_nil ((same low).mpr attained)

end Keeper

namespace Specimen

/-- Three callers that read the clock within an hour. -/
def calls : List Call :=
  [⟨0, ⟨"first", 1⟩⟩, ⟨5, ⟨"second", 2⟩⟩, ⟨3599, ⟨"third", 3⟩⟩]

/-- In the reverse order, too, one token is made for all three. -/
theorem calls_sparing : calls.reverse.Perm calls ∧
    ((Keeper.ofCredential credential).mintReadings calls.reverse).length = 1 ∧
    ∃ text, ∀ turn ∈ (Keeper.ofCredential credential).turns calls.reverse, turn.result = .ok text := by
  have fresh : (Keeper.ofCredential credential).credential.IsUsable := usable
  obtain ⟨_, _, _, hour⟩ := Keeper.turns_sparing fresh calls.reverse_perm
  obtain ⟨_, one⟩ := hour 0 3599 rfl rfl
  exact ⟨calls.reverse_perm, one rfl (by decide)⟩

end Specimen

end SignedPurchase
