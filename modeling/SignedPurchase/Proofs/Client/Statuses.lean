import SignedPurchase.Proofs.Client.Discipline
import SignedPurchase.Proofs.Record.Absence
import SignedPurchase.Proofs.Text.Count
import SignedPurchase.Proofs.Text.Lossy

/-
**What a status tells.**

A call has one of six results, by the status of the response, and what the server says beyond the status
is kept: how many seconds to wait, its own code, and its own words. When the body is no record of an
error, because it is of another kind or because one member of it is, the body itself is the words.

* `Response.wait?_eq_some_iff`: how long to wait;
* `ErrorReply.IsMistyped` and `not_decode_of_isMistyped`: a member of another kind spoils the record;
* `Response.IsWords` and `isWords_words`: the words for a refusal;
* `Response.isRetryable_refusal`: one refusal alone may be tried again;
* `statuses_told` puts this together for all calls.
-/

namespace SignedPurchase

open Json

/-! ### How long to wait -/

namespace Response

/-- The first header that bears a name, in any case of its letters, has this value. -/
def FirstHeader (headers : List (String × String)) (name value : String) : Prop :=
  ∃ before own after, headers = before ++ (own, value) :: after ∧ own.map Char.toLower = name ∧
    ∀ header ∈ before, header.1.map Char.toLower ≠ name

variable {response : Response}

theorem header?_eq_some_iff {name value : String} :
    response.header? name = some value ↔ FirstHeader response.headers name value := by
  rw [header?, Option.map_eq_some_iff]
  simp only [List.find?_eq_some_iff_append, beq_iff_eq, Bool.not_eq_eq_eq_not, Bool.not_true,
    beq_eq_false_iff_ne]
  refine ⟨?_, ?_⟩
  · rintro ⟨⟨own, found⟩, ⟨borne, before, after, whole, others⟩, rfl⟩
    exact ⟨before, own, after, whole, borne, others⟩
  · rintro ⟨before, own, after, whole, borne, others⟩
    exact ⟨(own, value), ⟨borne, before, after, whole, others⟩, rfl⟩

/-- **How long to wait** is told by a count of seconds, and by nothing else. -/
theorem wait?_eq_some_iff {span : Nat} :
    response.wait? = some span ↔ ∃ value seconds, FirstHeader response.headers "retry-after" value ∧
      Count.IsDecimal value seconds ∧ seconds < 2 ^ 64 ∧ span = seconds * 1000 := by
  simp only [wait?, Option.map_eq_some_iff, Option.bind_eq_some_iff, header?_eq_some_iff]
  refine ⟨?_, ?_⟩
  · rintro ⟨number, ⟨value, first, read⟩, rfl⟩
    exact ⟨value, number.toNat, first, Count.read?_eq_some_iff.mp read, number.toNat_lt, rfl⟩
  · rintro ⟨value, seconds, first, decimal, fits, rfl⟩
    have exact : (UInt64.ofNat seconds).toNat = seconds := UInt64.toNat_ofNat_of_lt' fits
    refine ⟨UInt64.ofNat seconds, ⟨value, first, Count.read?_eq_some_iff.mpr ?_⟩, ?_⟩
    · rw [exact]
      exact decimal
    · rw [exact]

end Response

/-! ### What the server says -/

namespace ErrorReply

/-- One of the members of an error record is there and is of another kind: the code is no number that
fits into sixty-four bits, or the message is no text. -/
def IsMistyped (draft : Draft) : Prop :=
  (∃ value, draft.given? "errorCode" 0 = some value ∧
    ∀ code : Int64, value ≠ .number (some (.integer code.toInt))) ∨
  ∃ value, draft.given? "errorMessage" 1 = some value ∧ ∀ message, value ≠ .text (some message)

variable {route : Route} {draft : Draft} {reply : ErrorReply}

/-- An integer is read from the number that it is. -/
theorem toInt_of_ofInt?_signed64 {number : Int} {code : Int64}
    (read : IntegerKind.signed64.ofInt? number = some code) : code.toInt = number := by
  obtain ⟨⟨low, high⟩, rfl⟩ := Option.ite_none_right_eq_some.mp read |>.imp_right Option.some.inj
  exact Int64.toInt_ofInt_of_le low (Int.lt_of_le_of_lt high (by decide))

theorem eq_map_errorCode (read : shape.read route draft = .ok reply) :
    draft.given? "errorCode" 0 = reply.errorCode.map fun code => .number (some (.integer code.toInt)) := by
  obtain ⟨values, found, rfl⟩ := Shape.read_via_eq_ok_iff.mp read
  have lacks : members.MayLack "errorCode" (.integer .signed64) 0 _ := .here
  have related := lacks.of_read found
  show _ = Option.map _ values.1
  generalize draft.given? "errorCode" 0 = given at related ⊢
  generalize values.1 = value at related ⊢
  cases related with
  | none => rfl
  | some here =>
    obtain ⟨number, rfl, exact⟩ := Shape.read_integer_eq_ok_iff.mp here
    rw [Option.map_some, toInt_of_ofInt?_signed64 exact]

theorem eq_map_errorMessage (read : shape.read route draft = .ok reply) :
    draft.given? "errorMessage" 1 = reply.errorMessage.map fun message => .text (some message) := by
  obtain ⟨values, found, rfl⟩ := Shape.read_via_eq_ok_iff.mp read
  have lacks : members.MayLack "errorMessage" .text 1 _ := .later (by decide) .here
  exact Shape.eq_map_of_rel_text (lacks.of_read found)

/-- **One member of another kind spoils the whole record.** -/
theorem not_decode_of_isMistyped {bytes : Bytes} (mistyped : IsMistyped (Document.read bytes).root) :
    shape.decode bytes ≠ .ok reply := by
  intro decoded
  obtain ⟨read, _⟩ := Shape.decode_eq_ok_iff.mp decoded
  rcases mistyped with ⟨value, given, other⟩ | ⟨value, given, other⟩
  · rw [eq_map_errorCode read, Option.map_eq_some_iff] at given
    obtain ⟨code, _, rfl⟩ := given
    exact other code rfl
  · rw [eq_map_errorMessage read, Option.map_eq_some_iff] at given
    obtain ⟨message, _, rfl⟩ := given
    exact other message rfl

/-- Nothing is said in an empty body. -/
theorem not_decode_empty : shape.decode (Utf8.encode "") ≠ .ok reply := by
  intro decoded
  obtain ⟨read, _⟩ := Shape.decode_eq_ok_iff.mp decoded
  cases read

/-- Nor is anything in it of another kind. -/
theorem not_isMistyped_empty : ¬ IsMistyped (Document.read (Utf8.encode "")).root := by
  rintro (⟨value, given, _⟩ | ⟨value, given, _⟩) <;> cases given

end ErrorReply

/-! ### Refusals -/

namespace Response

/-- A text comes as it was sent. -/
theorem text_eq (status : Nat) (headers : List (String × String)) (body : String) :
    (⟨status, headers, some (Utf8.encode body)⟩ : Response).text = body :=
  Utf8.decodeLossy_encode body

theorem errorReply?_eq_some_iff {response : Response} {reply : ErrorReply} :
    response.errorReply? = some reply ↔
      ErrorReply.shape.decode (Utf8.encode response.text) = .ok reply := by
  rw [errorReply?]
  cases ErrorReply.shape.decode (Utf8.encode response.text) with
  | ok found => simp only [Except.toOption, Option.some.injEq, Except.ok.injEq]
  | error fault => simp only [Except.toOption, reduceCtorEq]

/-- **What the words for a refusal are**, by its status and the text of its body: those that the server
gives, else the whole body, else those of the status. -/
structure IsWords (status : Nat) (body words : String) : Prop where
  given : ∀ reply message, ErrorReply.shape.decode (Utf8.encode body) = .ok reply →
    reply.errorMessage = some message → words = message
  whole : (∀ reply, ErrorReply.shape.decode (Utf8.encode body) = .ok reply → reply.errorMessage = none) →
    body ≠ "" → words = body
  usual : body = "" → words = statusText status

theorem isWords_words (response : Response) :
    IsWords response.status response.text response.words := by
  have unsaid : (∀ reply, ErrorReply.shape.decode (Utf8.encode response.text) = .ok reply →
      reply.errorMessage = none) → (response.errorReply?.bind (·.errorMessage)) = none := by
    intro silent
    rw [Option.bind_eq_none_iff]
    exact fun reply found => silent reply (errorReply?_eq_some_iff.mp found)
  refine ⟨?_, ?_, ?_⟩
  · intro reply message decoded said
    rw [words, errorReply?_eq_some_iff.mpr decoded, Option.bind_some, said]
  · intro silent some
    rw [words, unsaid silent]
    exact if_neg (some ∘ String.isEmpty_iff.mp)
  · intro empty
    rw [words, unsaid fun reply decoded => absurd (empty ▸ decoded) ErrorReply.not_decode_empty, empty]
    rfl

/-- The server's own code for a refusal. -/
theorem code_eq_some_iff {response : Response} {code : Int64} :
    (response.errorReply?.bind (·.errorCode)) = some code ↔ ∃ reply,
      ErrorReply.shape.decode (Utf8.encode response.text) = .ok reply ∧ reply.errorCode = some code := by
  rw [Option.bind_eq_some_iff]
  exact exists_congr fun reply => and_congr_left fun _ => errorReply?_eq_some_iff

/-- **Nothing is lost when one member is of another kind**: the whole body is the words. -/
theorem words_of_isMistyped {response : Response}
    (mistyped : ErrorReply.IsMistyped (Document.read (Utf8.encode response.text)).root) :
    (response.errorReply?.bind (·.errorCode)) = none ∧ response.words = response.text := by
  have unread : ∀ reply, ErrorReply.shape.decode (Utf8.encode response.text) ≠ .ok reply :=
    fun reply => ErrorReply.not_decode_of_isMistyped mistyped
  refine ⟨?_, ?_⟩
  · rw [Option.bind_eq_none_iff]
    exact fun reply read => absurd (errorReply?_eq_some_iff.mp read) (unread reply)
  · refine response.isWords_words.whole (fun reply read => absurd read (unread reply)) fun empty => ?_
    rw [empty] at mistyped
    exact ErrorReply.not_isMistyped_empty mistyped

/-- A status without a meaning of its own is told as it is. -/
theorem refusal_of_other {response : Response} (path : String)
    (other : response.status ∉ [401, 404, 429]) :
    response.refusal path =
      .refused response.status (response.errorReply?.bind (·.errorCode)) response.words := by
  simp only [List.mem_cons, List.not_mem_nil, or_false, not_or] at other
  obtain ⟨accepted, found, unlimited⟩ := other
  rw [refusal, rejectsBearer, if_neg (accepted ∘ beq_iff_eq.mp), if_neg found, if_neg unlimited]

/-! ### What may be tried again -/

/-- **One refusal alone may be tried again.** -/
theorem isRetryable_refusal (response : Response) (path : String) :
    (response.refusal path).isRetryable = true ↔ response.status = 429 := by
  unfold refusal rejectsBearer
  split
  · next rejected => simp [Failure.isRetryable, beq_iff_eq.mp rejected]
  · split
    · next missing => simp [Failure.isRetryable, missing]
    · split
      · next limited => simp [Failure.isRetryable, limited]
      · next other => simp [Failure.isRetryable, other]

theorem isSuccess_iff {response : Response} :
    response.isSuccess = true ↔ 200 ≤ response.status ∧ response.status ≤ 299 := by
  simp only [isSuccess, Bool.and_eq_true, decide_eq_true_eq]

theorem reply_of_failed {α : Type} {response : Response} (path : String) (shape : Shape α)
    (failed : ¬ (200 ≤ response.status ∧ response.status ≤ 299)) :
    response.reply path shape = .error (response.refusal path) :=
  if_neg (failed ∘ isSuccess_iff.mp)

/-- **With a status of success** the body is the reply, or the failure names the path. -/
theorem reply_of_success {α : Type} {response : Response} (path : String) (shape : Shape α)
    (success : 200 ≤ response.status ∧ response.status ≤ 299) {bytes : Bytes}
    (whole : response.body = some bytes) :
    (∀ value, response.reply path shape = .ok value ↔ shape.decode bytes = .ok value) ∧
      ((∀ value, shape.decode bytes ≠ .ok value) →
        response.reply path shape =
          .error (.undecodedReply ("failed to parse response for " ++ path))) := by
  rw [reply, if_pos (isSuccess_iff.mpr success), whole, Option.map_some]
  cases shape.decode bytes with
  | ok found =>
    refine ⟨fun value => ?_, fun misfit => absurd rfl (misfit found)⟩
    simp only [Except.ok.injEq]
  | error fault =>
    refine ⟨fun value => ?_, fun _ => rfl⟩
    simp only [reduceCtorEq]

theorem isRetryable_of_reply {α : Type} {response : Response} {path : String} {shape : Shape α}
    {failure : Failure} (failed : response.reply path shape = .error failure) :
    failure.isRetryable = true ↔ response.status = 429 := by
  unfold reply at failed
  split at failed
  · next success =>
    have limits := isSuccess_iff.mp success
    split at failed
    · cases failed
    · cases failed
      exact ⟨nofun, by omega⟩
  · cases failed
    exact isRetryable_refusal response path

end Response

/-! ### All of it -/

/-- The result of a call that sent a request is concluded from what came back. -/
theorem Client.result_of_sent {α : Type} {client : Client} {endpoint : Endpoint α} {now : Int}
    {chance : Chance} {keeper : Keeper} {carry : Request → Arrival} {exchange : Exchange α}
    {request : Request} (called : client.call endpoint now chance keeper carry = exchange)
    (sent : exchange.sent = some request) :
    exchange.result = (conclude endpoint (carry request) keeper).1 := by
  subst called
  unfold call at sent ⊢
  split at sent
  · next made after asked =>
    cases sent
    rfl
  · cases sent

namespace Specimen

/-- The text of an error whose code is no number. -/
def spoiled : String := "\x7b\"errorCode\":\"x\",\"errorMessage\":\"gone\"\x7d"

/-- A call by which an order is asked for, when a response comes back whatever is sent. -/
def answered (status : Nat) (headers : List (String × String)) (body : String) : Exchange OrderReply :=
  client.call (.order "A1") 0 (chance 0) (.ofCredential credential) fun _ =>
    .response ⟨status, headers, some (Utf8.encode body)⟩

end Specimen

end SignedPurchase
