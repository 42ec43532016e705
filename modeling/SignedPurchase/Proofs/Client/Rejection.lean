import SignedPurchase.Client.Basic
import SignedPurchase.Proofs.Bearer.Keeping
import SignedPurchase.Proofs.Token.Segments
import SignedPurchase.Proofs.Trust.Vouching
import Mathlib.Logic.Function.Basic

/-
**Rejected bearers.**

Between the halves of a call others may use the keeper. When the response comes, the keeper may hold
another token than the one whose bearer was sent; a response that rejects the bearer makes it forget
whatever it holds.

* `Traffic.after` is what events lead to: requests are sent, by any clients, and responses come;
* `Traffic.step_keeper_cases`: an event leaves the keeper as it is, or empties it because a bearer was
  rejected, or has a token made because none that is held lasts;
* `Traffic.replaced_add_vacancy`: tokens are made in place of forgotten ones as often as they are
  forgotten;
* `Traffic.rejections_accounted` puts this together for all runs: at most one token is replaced for
  each rejection, and at most one in all when the rejections come before the next bearer is obtained;
* `Specimen.newer_discarded`: a late rejection makes the keeper forget a newer token.
-/

namespace SignedPurchase

/-! ### The halves of a call -/

/-- Whether what came back rejects the bearer. -/
def Arrival.rejectsBearer : Arrival → Bool
  | .response reply => reply.rejectsBearer
  | .nothing _ => false

namespace Client

variable {α : Type} {client : Client} {endpoint : Endpoint α} {keeper after : Keeper} {now : Int}
  {chance : Chance} {bearer : String} {url : Url}

/-- **The second half of a call** empties the keeper when the bearer was rejected, and leaves it as it
is otherwise. Which bearer that was does not matter. -/
theorem conclude_keeper (endpoint : Endpoint α) (arrival : Arrival) (keeper : Keeper) :
    (conclude endpoint arrival keeper).2 = if arrival.rejectsBearer then keeper.clear else keeper := by
  cases arrival with
  | response response => rfl
  | nothing reason => rfl

theorem request_keeper (client : Client) (endpoint : Endpoint α) (now : Int) (chance : Chance)
    (keeper : Keeper) :
    (client.request endpoint now chance keeper).2 = (keeper.provide now chance).2 := by
  unfold request
  split
  · next bearer after provided => rw [provided]
  · next failure after provided => rw [provided]

theorem request_of_provide (provided : keeper.provide now chance = (.ok bearer, after))
    (addressed : client.url? endpoint = some url) :
    client.request endpoint now chance keeper = (.ok ⟨endpoint.method, url, bearer⟩, after) := by
  rw [request, provided]
  show (client.requestWith endpoint bearer, after) = _
  rw [requestWith, addressed]

/-- A call without a bearer sends nothing. -/
theorem call_of_failure {failure : Failure}
    (provided : keeper.provide now chance = (.error failure, after)) (carry : Request → Arrival) :
    client.call endpoint now chance keeper carry = ⟨.error failure, after, none⟩ := by
  rw [call, request, provided]

/-- Nor does one without an address. -/
theorem call_of_unaddressed (provided : keeper.provide now chance = (.ok bearer, after))
    (nowhere : client.url? endpoint = none) (carry : Request → Arrival) :
    client.call endpoint now chance keeper carry =
      ⟨.error (.network "not an address of the web"), after, none⟩ := by
  rw [call, request, provided]
  simp only [requestWith, nowhere]

/-- **A call with a bearer and an address** sends one request, and what comes back is concluded from. -/
theorem call_of_addressed (provided : keeper.provide now chance = (.ok bearer, after))
    (addressed : client.url? endpoint = some url) (carry : Request → Arrival) :
    client.call endpoint now chance keeper carry =
      ⟨(conclude endpoint (carry ⟨endpoint.method, url, bearer⟩) after).1,
        if (carry ⟨endpoint.method, url, bearer⟩).rejectsBearer then after.clear else after,
        some ⟨endpoint.method, url, bearer⟩⟩ := by
  rw [call, request_of_provide provided addressed, ← conclude_keeper endpoint]

end Client

/-! ### Requests under way -/

/-- A request that has no response yet. -/
structure Pending where
  Reply : Type
  endpoint : Endpoint Reply
  request : Request

/-- A keeper and the requests under way with bearers from it. -/
structure Traffic where
  keeper : Keeper
  /-- The requests under way, by number. -/
  underway : Nat → Option Pending

namespace Traffic

/-- What may happen. -/
inductive Event where
  /-- A client makes the first half of a call. -/
  | send (number : Nat) (client : Client) {α : Type} (endpoint : Endpoint α) (now : Int)
      (chance : Chance)
  /-- Something comes back, and the second half is made. -/
  | receive (number : Nat) (arrival : Arrival)

/-- Whether a bearer is rejected in an event. -/
def Event.rejects : Event → Bool
  | .send .. => false
  | .receive _ arrival => arrival.rejectsBearer

/-- Whether a request is sent in an event. -/
def Event.sends : Event → Bool
  | .send .. => true
  | .receive .. => false

/-- Nothing is under way yet. -/
def ofKeeper (keeper : Keeper) : Traffic :=
  ⟨keeper, fun _ => none⟩

/-- What an event leads to. A request that cannot be made is not sent. -/
def step (traffic : Traffic) : Event → Traffic
  | .send number client endpoint now chance =>
    match client.request endpoint now chance traffic.keeper with
    | (.ok request, keeper) =>
      ⟨keeper, Function.update traffic.underway number (some ⟨_, endpoint, request⟩)⟩
    | (.error _, keeper) => { traffic with keeper }
  | .receive number arrival =>
    match traffic.underway number with
    | some pending =>
      ⟨(Client.conclude pending.endpoint arrival traffic.keeper).2,
        Function.update traffic.underway number none⟩
    | none => traffic

/-- What events lead to, the first of them first. -/
def after (traffic : Traffic) (events : List Event) : Traffic :=
  events.foldl step traffic

/-- The keepers before and after each event, the first of them first. -/
def changes (traffic : Traffic) : List Event → List (Keeper × Keeper)
  | [] => []
  | event :: rest => (traffic.keeper, (traffic.step event).keeper) :: (traffic.step event).changes rest

end Traffic

/-! ### Changes of a keeper -/

namespace Keeper

/-- Whether a token is forgotten. -/
def forgets (change : Keeper × Keeper) : Bool :=
  change.1.current.isSome && change.2.current.isNone

/-- Whether a token is made where none was held. -/
def replaces (change : Keeper × Keeper) : Bool :=
  change.1.current.isNone && decide (change.1.minted < change.2.minted)

/-- Whether a token is made where another was held. -/
def renews (change : Keeper × Keeper) : Bool :=
  change.1.current.isSome && decide (change.1.minted < change.2.minted)

/-- The tokens that are missing: one if none is held. -/
def vacancy (keeper : Keeper) : Nat :=
  if keeper.current.isNone then 1 else 0

variable (keeper : Keeper) (token : BearerToken)

@[simp]
theorem forgets_self : forgets (keeper, keeper) = false := by
  cases held : keeper.current <;> simp [forgets, held]

@[simp]
theorem forgets_clear : forgets (keeper, keeper.clear) = keeper.current.isSome := by
  simp [forgets]

@[simp]
theorem forgets_keep : forgets (keeper, keeper.keep token) = false := by
  simp [forgets]

@[simp]
theorem replaces_self : replaces (keeper, keeper) = false := by
  simp [replaces]

@[simp]
theorem replaces_clear : replaces (keeper, keeper.clear) = false := by
  simp [replaces]

@[simp]
theorem replaces_keep : replaces (keeper, keeper.keep token) = keeper.current.isNone := by
  simp [replaces]

@[simp]
theorem renews_self : renews (keeper, keeper) = false := by
  simp [renews]

@[simp]
theorem renews_clear : renews (keeper, keeper.clear) = false := by
  simp [renews]

@[simp]
theorem renews_keep : renews (keeper, keeper.keep token) = keeper.current.isSome := by
  simp [renews]

@[simp]
theorem vacancy_clear : keeper.clear.vacancy = 1 := rfl

@[simp]
theorem vacancy_keep : (keeper.keep token).vacancy = 0 := rfl

theorem vacancy_le_one : keeper.vacancy ≤ 1 := by
  unfold vacancy
  split <;> omega

end Keeper

namespace Traffic

variable {traffic : Traffic} {number : Nat} {events : List Event}

@[simp]
theorem after_nil (traffic : Traffic) : traffic.after [] = traffic := rfl

@[simp]
theorem after_cons (traffic : Traffic) (event : Event) (rest : List Event) :
    traffic.after (event :: rest) = (traffic.step event).after rest := rfl

/-! ### One event -/

theorem step_receive {pending : Pending} (sent : traffic.underway number = some pending)
    (arrival : Arrival) :
    traffic.step (.receive number arrival) =
      ⟨if arrival.rejectsBearer then traffic.keeper.clear else traffic.keeper,
        Function.update traffic.underway number none⟩ := by
  rw [step, sent]
  show Traffic.mk (Client.conclude pending.endpoint arrival traffic.keeper).2 _ = _
  rw [Client.conclude_keeper]

theorem step_send {α : Type} {client : Client} {endpoint : Endpoint α} {now : Int} {chance : Chance}
    {bearer : String} {keeper after : Keeper} {url : Url} (underway : Nat → Option Pending)
    (number : Nat) (provided : keeper.provide now chance = (.ok bearer, after))
    (addressed : client.url? endpoint = some url) :
    step ⟨keeper, underway⟩ (.send number client endpoint now chance) =
      ⟨after, Function.update underway number
        (some ⟨α, endpoint, endpoint.method, url, bearer⟩)⟩ := by
  rw [step, Client.request_of_provide provided addressed]

theorem step_send_keeper {α : Type} (client : Client) (endpoint : Endpoint α) (now : Int)
    (chance : Chance) :
    (traffic.step (.send number client endpoint now chance)).keeper =
      (traffic.keeper.provide now chance).2 := by
  rw [← Client.request_keeper client endpoint now chance traffic.keeper, step]
  split
  · next request keeper requested => rw [requested]
  · next failure keeper failed => rw [failed]

/-- **What an event does to the keeper.** Either nothing; or it empties it, because a bearer is
rejected; or it has a token made for a request, because none that is held lasts. -/
theorem step_keeper_cases (traffic : Traffic) (event : Event) :
    (traffic.step event).keeper = traffic.keeper ∨
    (event.rejects = true ∧ (traffic.step event).keeper = traffic.keeper.clear) ∨
    (event.sends = true ∧ ∃ now chance token, traffic.keeper.isExpiredAt now = true ∧
      traffic.keeper.credential.mint now chance = .ok token ∧
      (traffic.step event).keeper = traffic.keeper.keep token) := by
  cases event with
  | send number client endpoint now chance =>
    rw [step_send_keeper]
    rcases traffic.keeper.provide_cases now chance with
      ⟨_, _, _, provided⟩ | ⟨spent, token, minted, provided⟩ | ⟨_, _, _, provided⟩
    · exact .inl (by rw [provided])
    · exact .inr (.inr ⟨rfl, now, chance, token, spent, minted, by rw [provided]⟩)
    · exact .inl (by rw [provided])
  | receive number arrival =>
    cases sent : traffic.underway number with
    | none => exact .inl (by rw [step, sent])
    | some pending =>
      rw [step_receive sent]
      cases rejected : arrival.rejectsBearer with
      | false => exact .inl rfl
      | true => exact .inr (.inl ⟨rejected, rfl⟩)

/-- An event adds to the count of the keeper the token that is made in it. -/
theorem step_minted (traffic : Traffic) (event : Event) :
    (traffic.step event).keeper.minted = traffic.keeper.minted +
      (if Keeper.replaces (traffic.keeper, (traffic.step event).keeper) then 1 else 0) +
      (if Keeper.renews (traffic.keeper, (traffic.step event).keeper) then 1 else 0) := by
  rcases traffic.step_keeper_cases event with same | ⟨_, cleared⟩ | ⟨_, _, _, token, _, _, kept⟩
  · simp [same]
  · simp [cleared]
  · cases held : traffic.keeper.current <;> simp [kept, held]

/-- An event leaves no token where one is forgotten, and one where one is made. -/
theorem step_vacancy (traffic : Traffic) (event : Event) :
    (if Keeper.replaces (traffic.keeper, (traffic.step event).keeper) then 1 else 0) +
        (traffic.step event).keeper.vacancy =
      (if Keeper.forgets (traffic.keeper, (traffic.step event).keeper) then 1 else 0) +
        traffic.keeper.vacancy := by
  rcases traffic.step_keeper_cases event with same | ⟨_, cleared⟩ | ⟨_, _, _, token, _, _, kept⟩
  · simp [same]
  · cases held : traffic.keeper.current <;> simp [cleared, Keeper.vacancy, held]
  · cases held : traffic.keeper.current <;> simp [kept, Keeper.vacancy, held]

theorem rejects_of_forgets {event : Event}
    (forgotten : Keeper.forgets (traffic.keeper, (traffic.step event).keeper) = true) :
    event.rejects = true := by
  rcases traffic.step_keeper_cases event with same | ⟨rejected, _⟩ | ⟨_, _, _, token, _, _, kept⟩
  · simp [same] at forgotten
  · exact rejected
  · simp [kept] at forgotten

theorem sends_of_replaces {event : Event}
    (made : Keeper.replaces (traffic.keeper, (traffic.step event).keeper) = true) :
    event.sends = true := by
  rcases traffic.step_keeper_cases event with same | ⟨_, cleared⟩ | ⟨sent, _⟩
  · simp [same] at made
  · simp [cleared] at made
  · exact sent

/-- A token that is made where another was held is made when the time of that one is over. -/
theorem due_of_renews {event : Event}
    (made : Keeper.renews (traffic.keeper, (traffic.step event).keeper) = true) :
    ∃ now old new, traffic.keeper.current = some old ∧ old.expiresAt ≤ now ∧
      (traffic.step event).keeper.current = some new ∧ new.expiresAt = now + 3600 := by
  rcases traffic.step_keeper_cases event with
    same | ⟨_, cleared⟩ | ⟨_, now, chance, new, spent, minted, kept⟩
  · simp [same] at made
  · simp [cleared] at made
  · rw [kept, Keeper.renews_keep] at made
    obtain ⟨old, held⟩ := Option.isSome_iff_exists.mp made
    refine ⟨now, old, new, held, Keeper.isExpiredAt_iff.mp spent old held, ?_,
      Credential.expiresAt_of_mint minted⟩
    rw [kept, Keeper.keep_current]

/-! ### Runs -/

/-- How often a token is made where none was held. -/
def replaced (traffic : Traffic) (events : List Event) : Nat :=
  (traffic.changes events).countP Keeper.replaces

/-- How often a token is made where another was held. -/
def renewed (traffic : Traffic) (events : List Event) : Nat :=
  (traffic.changes events).countP Keeper.renews

/-- How often a token is forgotten. -/
def forgotten (traffic : Traffic) (events : List Event) : Nat :=
  (traffic.changes events).countP Keeper.forgets

theorem changes_append (traffic : Traffic) (early late : List Event) :
    traffic.changes (early ++ late) =
      traffic.changes early ++ (traffic.after early).changes late := by
  induction early generalizing traffic with
  | nil => rfl
  | cons event rest ih =>
    rw [List.cons_append, changes, ih]
    rfl

theorem replaced_append (traffic : Traffic) (early late : List Event) :
    traffic.replaced (early ++ late) =
      traffic.replaced early + (traffic.after early).replaced late := by
  rw [replaced, changes_append, List.countP_append]
  rfl

theorem exists_of_mem_changes {change : Keeper × Keeper} (member : change ∈ traffic.changes events) :
    ∃ (before : Traffic) (event : Event), change = (before.keeper, (before.step event).keeper) := by
  induction events generalizing traffic with
  | nil => cases member
  | cons event rest ih =>
    rcases List.mem_cons.mp member with rfl | member
    · exact ⟨traffic, event, rfl⟩
    · exact ih member

/-- Changes of a kind that only events of a kind make are no more than these. -/
theorem countP_changes_le {kind : Keeper × Keeper → Bool} {cause : Event → Bool}
    (caused : ∀ (traffic : Traffic) event,
      kind (traffic.keeper, (traffic.step event).keeper) = true → cause event = true)
    (traffic : Traffic) (events : List Event) :
    (traffic.changes events).countP kind ≤ events.countP cause := by
  induction events generalizing traffic with
  | nil => exact Nat.le_refl _
  | cons event rest ih =>
    rw [changes, List.countP_cons, List.countP_cons]
    refine Nat.add_le_add (ih (traffic.step event)) ?_
    split
    · next made => rw [if_pos (caused traffic event made)]
    · exact Nat.zero_le _

/-- The count of a keeper goes up by the tokens that are made. -/
theorem after_minted (traffic : Traffic) (events : List Event) :
    (traffic.after events).keeper.minted =
      traffic.keeper.minted + traffic.replaced events + traffic.renewed events := by
  induction events generalizing traffic with
  | nil => rfl
  | cons event rest ih =>
    have later := ih (traffic.step event)
    have now := traffic.step_minted event
    unfold replaced renewed at later ⊢
    rw [after_cons, changes, List.countP_cons, List.countP_cons]
    omega

/-- **Tokens are replaced as often as they are forgotten**, but for one that is missing at the
beginning or at the end. -/
theorem replaced_add_vacancy (traffic : Traffic) (events : List Event) :
    traffic.replaced events + (traffic.after events).keeper.vacancy =
      traffic.forgotten events + traffic.keeper.vacancy := by
  induction events generalizing traffic with
  | nil => rfl
  | cons event rest ih =>
    have later := ih (traffic.step event)
    have now := traffic.step_vacancy event
    unfold replaced forgotten at later ⊢
    rw [after_cons, changes, List.countP_cons, List.countP_cons]
    omega

theorem forgotten_le (traffic : Traffic) (events : List Event) :
    traffic.forgotten events ≤ events.countP Event.rejects :=
  countP_changes_le (fun _ _ forgotten => rejects_of_forgets forgotten) traffic events

theorem replaced_le (traffic : Traffic) (events : List Event) :
    traffic.replaced events ≤ events.countP Event.sends :=
  countP_changes_le (fun _ _ made => sends_of_replaces made) traffic events

/-- **Rejections that come before the next bearer is obtained cause one token to be made**, at
most. -/
theorem replaced_le_one (traffic : Traffic) {early late : List Event}
    (received : ∀ event ∈ early, event.sends = false)
    (accepted : ∀ event ∈ late, event.rejects = false) :
    traffic.replaced (early ++ late) ≤ 1 := by
  -- Nothing is made before, and afterwards only the one place that is empty can be filled.
  have none : traffic.replaced early = 0 := by
    have bound := traffic.replaced_le early
    rw [List.countP_eq_zero.mpr fun event member => by rw [received event member]; decide] at bound
    omega
  have kept : (traffic.after early).forgotten late = 0 := by
    have bound := (traffic.after early).forgotten_le late
    rw [List.countP_eq_zero.mpr fun event member => by rw [accepted event member]; decide] at bound
    omega
  have balance := (traffic.after early).replaced_add_vacancy late
  have missing : (traffic.after early).keeper.vacancy ≤ 1 := Keeper.vacancy_le_one _
  rw [replaced_append]
  omega

/-- **What rejections lead to.** At any time, a response that rejects the bearer of a request empties
the keeper, whichever bearer the request carried, and any other response leaves the keeper as it is. In
any run tokens are made only where another was held whose time is over, or where none is held: that is
at most one for each rejection, and one more if none was held at the beginning; and at most one in all
if the rejections come before the next bearer is obtained. -/
theorem rejections_accounted (traffic : Traffic) (events : List Event) :
    (∀ number pending arrival, (traffic.after events).underway number = some pending →
      ((traffic.after events).step (.receive number arrival)).keeper =
        if arrival.rejectsBearer then (traffic.after events).keeper.clear
        else (traffic.after events).keeper) ∧
    (traffic.after events).keeper.minted =
      traffic.keeper.minted + traffic.replaced events + traffic.renewed events ∧
    (∀ change ∈ traffic.changes events, Keeper.renews change = true → ∃ now old new,
      change.1.current = some old ∧ old.expiresAt ≤ now ∧
      change.2.current = some new ∧ new.expiresAt = now + 3600) ∧
    traffic.replaced events ≤ events.countP Event.rejects + traffic.keeper.vacancy ∧
    ∀ early late, events = early ++ late → (∀ event ∈ early, event.sends = false) →
      (∀ event ∈ late, event.rejects = false) → traffic.replaced events ≤ 1 := by
  refine ⟨fun number pending arrival sent => by rw [step_receive sent],
    after_minted traffic events, ?_, ?_, ?_⟩
  · intro change member made
    obtain ⟨before, event, rfl⟩ := exists_of_mem_changes member
    exact due_of_renews made
  · have balance := traffic.replaced_add_vacancy events
    have bound := traffic.forgotten_le events
    omega
  · rintro early late rfl received accepted
    exact traffic.replaced_le_one received accepted

end Traffic

/-! ### A late rejection -/

/-- Bearers with the same text were made of the same claims. -/
theorem Credential.claims_of_text_eq {credential : Credential} {now later : Int}
    {chance another : Chance} {old new : BearerToken}
    (minted : credential.mint now chance = .ok old)
    (reminted : credential.mint later another = .ok new) (same : old.text = new.text) :
    segmentOf (credential.bearerClaims now chance.nonce) =
      segmentOf (credential.bearerClaims later another.nonce) := by
  obtain ⟨key, _, rfl⟩ := mint_eq_ok_iff.mp minted
  obtain ⟨other, _, rfl⟩ := mint_eq_ok_iff.mp reminted
  have parsed : CompactToken.parse (credential.bearerCompact key.scalar now chance).text =
      .ok (credential.bearerCompact key.scalar now chance) :=
    CompactToken.parse_text_symbols _ _ _
  have reparsed : CompactToken.parse (credential.bearerCompact other.scalar later another).text =
      .ok (credential.bearerCompact other.scalar later another) :=
    CompactToken.parse_text_symbols _ _ _
  have compact : credential.bearerCompact other.scalar later another =
      credential.bearerCompact key.scalar now chance :=
    Except.ok.inj (reparsed.symm.trans ((congrArg CompactToken.parse same.symm).trans parsed))
  exact (congrArg CompactToken.payload compact).symm

namespace Specimen

/-- A client of a server on the same machine. -/
def client : Client :=
  ⟨"https://localhost", Lettered.anchor⟩

/-- The chance of a token that is made for a request. -/
def chance (number : Nat) : Chance :=
  ⟨Nat.repr number, number + 1⟩

/-- A request for a test notification. -/
def sending (number : Nat) (now : Int) : Traffic.Event :=
  .send number client .testRequest now (chance number)

/-- A response that rejects the bearer of a request. -/
def rejecting (number : Nat) : Traffic.Event :=
  .receive number (.response ⟨401, [], some []⟩)

/-- Two requests are under way with one bearer. -/
def traffic : Traffic :=
  (Traffic.ofKeeper (.ofCredential credential)).after [sending 0 0, sending 1 0]

/-- Where the request goes. -/
def url : Url :=
  (client.url? .testRequest).get (by decide +kernel)

theorem addressed : client.url? .testRequest = some url :=
  (Option.some_get _).symm

theorem claims_ne : Credential.segmentOf (credential.bearerClaims 0 (chance 0).nonce) ≠
    Credential.segmentOf (credential.bearerClaims 1 (chance 2).nonce) := by
  decide +kernel

/-- A request under way. -/
def pending (bearer : String) : Pending :=
  ⟨_, .testRequest, .post, url, bearer⟩

variable {keeper : Keeper} {underway : Nat → Option Pending}

theorem step_sending {token : BearerToken} {number : Nat} {now : Int}
    (signs : keeper.credential = credential) (empty : keeper.current = none)
    (minted : credential.mint now (chance number) = .ok token) :
    Traffic.step ⟨keeper, underway⟩ (sending number now) =
      ⟨keeper.keep token, Function.update underway number (some (pending token.text))⟩ := by
  have spent : keeper.isExpiredAt now = true := by
    rw [Keeper.isExpiredAt, empty]
    rfl
  rw [← signs] at minted
  exact Traffic.step_send underway number (Keeper.provide_of_mint spent minted) addressed

theorem step_rejecting {number : Nat} {sent : Pending} (waits : underway number = some sent) :
    Traffic.step ⟨keeper, underway⟩ (rejecting number) =
      ⟨keeper.clear, Function.update underway number none⟩ :=
  Traffic.step_receive waits _

/-- Both requests carry the bearer of the token that is held. -/
theorem traffic_eq : ∃ old, credential.mint 0 (chance 0) = .ok old ∧
    traffic = ⟨(Keeper.ofCredential credential).keep old,
      Function.update (Function.update (fun _ => none) 0 (some (pending old.text))) 1
        (some (pending old.text))⟩ := by
  obtain ⟨old, minted⟩ := Credential.exists_mint usable 0 (chance 0)
  have lasting : 0 < old.expiresAt := by
    rw [Credential.expiresAt_of_mint minted]
    decide
  have held : ((Keeper.ofCredential credential).keep old).current = some old := rfl
  have given := Keeper.provide_of_lasting held lasting (chance 1)
  refine ⟨old, minted, ?_⟩
  rw [traffic, Traffic.after_cons, Traffic.after_cons, Traffic.after_nil, Traffic.ofKeeper,
    step_sending rfl rfl minted, sending, Traffic.step_send _ 1 given addressed]
  rfl

/-- **A late rejection makes the keeper forget a newer token.** Two requests are rejected that carried
the same bearer; between their responses another is sent, for which a token is made. The second
response discards it, so that one more is made. -/
theorem newer_discarded : ∃ bearer newer,
    traffic.underway 0 = some (pending bearer) ∧ traffic.underway 1 = some (pending bearer) ∧
    (traffic.after [rejecting 0, sending 2 1]).underway 1 = some (pending bearer) ∧
    (traffic.after [rejecting 0, sending 2 1]).keeper.current = some newer ∧ bearer ≠ newer.text ∧
    (traffic.after [rejecting 0, sending 2 1, rejecting 1]).keeper.current = none ∧
    traffic.replaced [rejecting 0, sending 2 1, rejecting 1, sending 3 2] = 2 := by
  obtain ⟨old, minted, begun⟩ := traffic_eq
  obtain ⟨newer, reminted⟩ := Credential.exists_mint usable 1 (chance 2)
  obtain ⟨newest, remade⟩ := Credential.exists_mint usable 2 (chance 3)
  have other : old.text ≠ newer.text := by
    intro same
    have claims := Credential.claims_of_text_eq minted reminted same
    exact claims_ne claims
  -- The request itself does not matter any more, only that it is under way twice.
  generalize sent : pending old.text = request at begun ⊢
  generalize waiting : Function.update (Function.update (fun _ => none) 0 (some request)) 1
    (some request) = underway at begun
  have first : underway 0 = some request := by rw [← waiting]; rfl
  have second : underway 1 = some request := by rw [← waiting]; rfl
  have stillSecond : Function.update (Function.update underway 0 none) 2
    (some (pending newer.text)) 1 = some request := second
  refine ⟨old.text, newer, ?_⟩
  rw [sent, begun]
  simp only [Traffic.replaced, Traffic.changes, Traffic.after_cons, Traffic.after_nil]
  rw [step_rejecting first, step_sending rfl rfl reminted, step_rejecting stillSecond,
    step_sending rfl rfl remade]
  refine ⟨first, second, stillSecond, rfl, other, rfl, ?_⟩
  simp [Keeper.replaces]

/-- When both responses come before the next request is sent, at most one token is made in place of the
one that is forgotten. -/
theorem replaced_once :
    traffic.replaced [rejecting 0, rejecting 1, sending 2 1, sending 3 2] ≤ 1 := by
  obtain ⟨_, _, _, _, once⟩ := Traffic.rejections_accounted traffic
    [rejecting 0, rejecting 1, sending 2 1, sending 3 2]
  exact once [rejecting 0, rejecting 1] [sending 2 1, sending 3 2] rfl
    (by simp [rejecting, Traffic.Event.sends]) (by simp [sending, Traffic.Event.rejects])

end Specimen

end SignedPurchase
