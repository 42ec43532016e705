import SignedPurchase.Client.Basic
import SignedPurchase.Proofs.Bearer.Keeping
import SignedPurchase.Proofs.Client.Rejection
import SignedPurchase.Proofs.Url.Segment

/-
**Where a question goes.**

What a caller names is written at the end of a path as it is, and the address is read only then. So a
name that is no segment as it stands changes the question: it may turn it into another one, which is
sent with the same bearer. `Endpoint.revision` is different: it is written as a field, which escapes it.

* `Endpoint.path_eq`: a path is fixed segments, and the name;
* `Url.Origin.ofText?_under`: what the address of such a path is read as;
* `Url.Asks` says that an address asks for a name, and for nothing else;
* `addressed_iff_segment`: what is sent asks for a name exactly when the name is a segment as it stands;
* `Specimen.question_swapped`: a name that makes one question into another.
-/

namespace SignedPurchase

/-! ### Questions -/

namespace Endpoint

variable {α β : Type}

/-- The fixed segments of the path of a question. -/
def stem : Endpoint α → List String
  | .transaction _ => ["inApps", "v1", "transactions"]
  | .history _ _ => ["inApps", "v1", "history"]
  | .subscriptions _ => ["inApps", "v1", "subscriptions"]
  | .order _ => ["inApps", "v1", "lookup"]
  | .refunds _ _ => ["inApps", "v2", "refund", "lookup"]
  | .testRequest => ["inApps", "v1", "notifications"]
  | .testStatus _ => ["inApps", "v1", "notifications", "test"]

/-- What the path of a question ends with. All but one question end with what the caller names. -/
def name : Endpoint α → String
  | .transaction id => id
  | .history firstId _ => firstId
  | .subscriptions firstId => firstId
  | .order orderId => orderId
  | .refunds firstId _ => firstId
  | .testRequest => "test"
  | .testStatus token => token

/-- Segments, each with a slash after it. -/
def slashed (stem : List String) : List Char :=
  stem.flatMap fun segment => segment.toList ++ ['/']

/-- **A path is fixed segments, and the name.** -/
theorem path_eq (endpoint : Endpoint α) :
    endpoint.path = String.ofList ('/' :: (slashed endpoint.stem ++ endpoint.name.toList)) := by
  rw [← List.cons_append, String.ofList_append, String.ofList_toList]
  cases endpoint with
  | testRequest => decide
  | transaction id | history id _ | subscriptions id | order id | refunds id _ | testStatus id =>
    refine congrArg (· ++ id) ?_
    simp only [stem]
    decide

/-- A question is known by its fixed segments, its name and its page. -/
theorem eq_of_stem {endpoint : Endpoint α} {other : Endpoint β} (stem : endpoint.stem = other.stem)
    (name : endpoint.name = other.name) (revision : endpoint.revision = other.revision) :
    (⟨α, endpoint⟩ : Sigma Endpoint) = ⟨β, other⟩ := by
  cases endpoint <;> cases other <;> simp_all [Endpoint.stem, Endpoint.name, Endpoint.revision]

end Endpoint

/-! ### Fixed segments -/

namespace Url

/-- A segment whose characters all stand for themselves. -/
structure IsFixed (segment : String) : Prop where
  plain : ∀ char ∈ segment.toList, Escape.isPlainInPath char = true ∧ isSlash char = false
  steady : isUp segment.toList = false ∧ isHere segment.toList = false

instance (segment : String) : Decidable (IsFixed segment) :=
  decidable_of_iff
    (segment.toList.all (fun char => Escape.isPlainInPath char = true ∧ isSlash char = false) ∧
      isUp segment.toList = false ∧ isHere segment.toList = false)
    (by
      rw [List.all_iff_forall_prop]
      exact ⟨fun ⟨plain, steady⟩ => ⟨plain, steady⟩, fun ⟨plain, steady⟩ => ⟨plain, steady⟩⟩)

variable {stem : List String} {segment : String}

theorem endsPath_of_isPlainInPath {char : Char} (plain : Escape.isPlainInPath char = true) :
    endsPath char = false := by
  refine Bool.eq_false_iff.mpr fun ends => ?_
  simp only [endsPath, Bool.or_eq_true, beq_iff_eq] at ends
  rcases ends with rfl | rfl <;> revert plain <;> decide

theorem IsFixed.path_eq (fixed : IsFixed segment) : Escape.path segment.toList = segment.toList := by
  have each : ∀ char ∈ segment.toList,
      (if Escape.isPlainInPath char then [char] else Escape.byBytes char) = [char] :=
    fun char member => if_pos (fixed.plain char member).1
  rw [Escape.path, List.flatMap_congr each, List.flatMap_singleton']

theorem slashed_plain (fixed : ∀ segment ∈ stem, IsFixed segment) :
    ∀ char ∈ Endpoint.slashed stem, isBlank char = false ∧ endsPath char = false := by
  intro char member
  obtain ⟨segment, found, member⟩ := List.mem_flatMap.mp member
  rcases List.mem_append.mp member with inside | slash
  · have plain := ((fixed segment found).plain char inside).1
    exact ⟨isBlank_of_isGraphic (Bool.and_eq_true_iff.mp plain).1, endsPath_of_isPlainInPath plain⟩
  · rw [List.mem_singleton.mp slash]
    decide

theorem segmentsOf_slashed (fixed : ∀ segment ∈ stem, IsFixed segment) (text : List Char) :
    segmentsOf (Endpoint.slashed stem ++ text) = stem.map String.toList ++ segmentsOf text := by
  induction stem with
  | nil => rfl
  | cons segment rest ih =>
    obtain ⟨here, later⟩ := List.forall_mem_cons.mp fixed
    have split : Endpoint.slashed (segment :: rest) ++ text =
        segment.toList ++ '/' :: (Endpoint.slashed rest ++ text) := by
      simp [Endpoint.slashed]
    rw [split, segmentsOf_append _ rfl, ih later,
      segmentsOf_of_unparted fun char member => (here.plain char member).2]
    rfl

/-- The address of a name under fixed segments of an origin. -/
def Origin.under (origin : Origin) (stem : List String) (name : String) : Url :=
  { origin.root with
    segments := resolve (stem.map String.toList).reverse (segmentsOf (pathPart name.toList))
    query := queryOf (afterPath name.toList) }

/-- **What the address of a path is read as.** -/
theorem Origin.ofText?_under (origin : Origin) (fixed : ∀ segment ∈ stem, IsFixed segment)
    (name : String) :
    ofText? (origin.address ++ String.ofList ('/' :: (Endpoint.slashed stem ++ name.toList))) =
      some (origin.under stem name) := by
  have plain := slashed_plain fixed
  have front : ∀ char ∈ Endpoint.slashed stem, (!endsPath char) = true := by
    intro char member
    rw [(plain char member).2]
    rfl
  have some : segmentsOf (pathPart name.toList) ≠ [] := by
    obtain ⟨last, found, _⟩ := getLast?_segmentsOf (pathPart name.toList)
    intro none
    rw [none] at found
    cases found
  have steady : ∀ segment ∈ stem.map String.toList, isUp segment = false ∧ isHere segment = false :=
    List.forall_mem_map.mpr fun segment member => (fixed segment member).steady
  have kept : (stem.map String.toList).map Escape.path = stem.map String.toList := by
    rw [List.map_map]
    exact List.map_congr_left fun segment member => (fixed segment member).path_eq
  rw [origin.ofText?_append, kept_append fun char member => (plain char member).1,
    List.takeWhile_append_of_pos front, List.dropWhile_append_of_pos front,
    segmentsOf_slashed fixed]
  show Option.some { origin.root with
    segments := resolve [] (stem.map String.toList ++ segmentsOf (pathPart name.toList))
    query := queryOf (afterPath name.toList) } = _
  rw [resolve_append steady some, kept, List.append_nil]
  rfl

/-- The address of a question to an origin. -/
def Origin.asking {α : Type} (origin : Origin) (endpoint : Endpoint α) : Url :=
  match endpoint.revision with
  | some revision => (origin.under endpoint.stem endpoint.name).withField "revision" revision
  | none => origin.under endpoint.stem endpoint.name

/-- An address asks for a name and for nothing else: its path is the fixed segments of a question and
one more, which is opened to the name, and it has a query only for a page. -/
structure Asks {α : Type} (url : Url) (endpoint : Endpoint α) : Prop where
  named : ∃ last, url.segments = endpoint.stem.map String.toList ++ [last] ∧
    Escape.opened (Utf8.encode (String.ofList last)) = Utf8.encode endpoint.name
  paged : url.query.isSome = endpoint.revision.isSome

section Asking

variable {α β : Type} {endpoint : Endpoint α} {other : Endpoint β} {origin : Origin} {url : Url}

theorem fixed_stem (endpoint : Endpoint α) : ∀ segment ∈ endpoint.stem, IsFixed segment := by
  cases endpoint <;> simp only [Endpoint.stem] <;> decide

theorem segments_asking (origin : Origin) (endpoint : Endpoint α) :
    (origin.asking endpoint).segments = (origin.under endpoint.stem endpoint.name).segments := by
  unfold Origin.asking
  cases endpoint.revision with
  | none => rfl
  | some revision => rfl

theorem query_asking (origin : Origin) (endpoint : Endpoint α) :
    (origin.asking endpoint).query.isSome =
      (endpoint.revision.isSome || (queryOf (afterPath endpoint.name.toList)).isSome) := by
  unfold Origin.asking
  cases endpoint.revision with
  | none => rfl
  | some revision => rfl

/-- A name that is a segment as it stands becomes the last segment of the path. -/
theorem segments_asking_of_isSegment (origin : Origin) (segment : IsSegment endpoint.name) :
    (origin.asking endpoint).segments =
      endpoint.stem.map String.toList ++ [Escape.path endpoint.name.toList] := by
  have single : segmentsOf (pathPart endpoint.name.toList) = [endpoint.name.toList] := by
    rw [segment.pathPart_eq, segmentsOf_of_unparted segment.unparted]
  rw [segments_asking]
  show resolve _ (segmentsOf (pathPart endpoint.name.toList)) = _
  rw [single, resolve_single segment.steady, List.reverse_reverse]

/-- **The address of a question asks for its name exactly when the name is a segment as it stands.** -/
theorem asks_asking_iff (origin : Origin) (endpoint : Endpoint α) :
    (origin.asking endpoint).Asks endpoint ↔ IsSegment endpoint.name := by
  obtain ⟨last, found, _⟩ := getLast?_segmentsOf (pathPart endpoint.name.toList)
  refine ⟨?_, ?_⟩
  · rintro ⟨⟨written, segments, opened⟩, _⟩
    rw [segments_asking] at segments
    have ends := getLast?_resolve found (endpoint.stem.map String.toList).reverse
    have ends' := congrArg List.getLast? segments
    rw [List.getLast?_concat] at ends'
    rw [Option.some.inj (ends'.symm.trans ends)] at opened
    exact isSegment_of_opened found opened
  · intro segment
    refine ⟨⟨Escape.path endpoint.name.toList, segments_asking_of_isSegment origin segment,
      segment.opened_path⟩, ?_⟩
    rw [query_asking, segment.afterPath_eq]
    exact Bool.or_false _

/-- What is asked for is known by the address. -/
theorem Asks.eq_of_asks (asks : url.Asks endpoint) (asks' : url.Asks other) :
    endpoint.stem = other.stem ∧ endpoint.name = other.name := by
  obtain ⟨⟨last, segments, opened⟩, _⟩ := asks
  obtain ⟨⟨last', segments', opened'⟩, _⟩ := asks'
  obtain ⟨stems, lasts⟩ := List.append_inj' (segments.symm.trans segments') rfl
  rw [List.cons.injEq] at lasts
  rw [← lasts.1, opened] at opened'
  exact ⟨List.map_injective_iff.mpr (fun _ _ => String.toList_inj.mp) stems, Utf8.encode_inj opened'⟩

end Asking

end Url

/-! ### Clients -/

/-- A text loses the slashes at its end. -/
theorem Configuration.withoutSlashes_append (origin : Url.Origin) (count : Nat) :
    withoutSlashes (origin.address ++ String.ofList (List.replicate count '/')) = origin.address := by
  have ends : (origin.address.toList ++ List.replicate count '/').rdropWhile (· == '/') =
      origin.address.toList := by
    induction count with
    | zero =>
      rw [List.replicate_zero, List.append_nil, List.rdropWhile_eq_self_iff]
      intro some slash
      have last := origin.getLast_address some
      rw [beq_iff_eq.mp slash] at last
      exact absurd last (by decide)
    | succ count ih =>
      rw [List.replicate_succ', ← List.append_assoc, List.rdropWhile_concat_pos _ _ _ rfl, ih]
  rw [withoutSlashes, String.toList_append, String.toList_ofList]
  show String.ofList ((origin.address.toList ++ List.replicate count '/').rdropWhile (· == '/')) = _
  rw [ends, String.ofList_toList]

namespace Client

variable {α : Type} {client : Client} {origin : Url.Origin}

theorem url?_eq (located : client.address = origin.address) (endpoint : Endpoint α) :
    client.url? endpoint = some (origin.asking endpoint) := by
  rw [url?, located, endpoint.path_eq, origin.ofText?_under (Url.fixed_stem endpoint),
    Option.map_some]
  unfold Url.Origin.asking
  cases endpoint.revision with
  | none => rfl
  | some revision => rfl

/-- **What a call sends**: the request for the question with the bearer, if there is one. -/
theorem sent_call (located : client.address = origin.address) (endpoint : Endpoint α) (now : Int)
    (chance : Chance) (keeper : Keeper) (carry : Request → Arrival) :
    (client.call endpoint now chance keeper carry).sent =
      (keeper.provide now chance).1.toOption.map fun bearer =>
        ⟨endpoint.method, origin.asking endpoint, bearer⟩ := by
  cases provided : keeper.provide now chance with
  | mk outcome after =>
    cases outcome with
    | ok bearer =>
      rw [call_of_addressed provided (url?_eq located endpoint)]
      rfl
    | error failure =>
      rw [call_of_failure provided]
      rfl

/-- A client is configured with the address of a server, whatever slashes there are after it. -/
theorem ofConfiguration_of_base {config : Configuration} {count : Nat}
    (base : config.override.or config.environment.host? =
      some (origin.address ++ String.ofList (List.replicate count '/'))) (anchor : TrustAnchor) :
    ofConfiguration config anchor = .ok ⟨origin.address, anchor⟩ := by
  have located : config.address = .ok origin.address := by
    rw [Configuration.address]
    cases override : config.override with
    | some address =>
      rw [override, Option.some_or, Option.some.injEq] at base
      simp only [base, Configuration.withoutSlashes_append]
    | none =>
      rw [override, Option.none_or] at base
      simp only [base, Configuration.withoutSlashes_append]
  rw [ofConfiguration, located]

end Client

/-- **What is sent asks for a name exactly when the name is a segment as it stands.** A client whose
configuration names a server and nothing else, but for slashes, sends every question to that server.
The path is that of the question, with the name in one segment, and the query is only for a page, if
the name is a segment as it stands, and not otherwise. Among such names, no two give the same request,
neither for one question nor for two. -/
theorem addressed_iff_segment (config : Configuration) (anchor : TrustAnchor) (origin : Url.Origin)
    (count : Nat)
    (base : config.override.or config.environment.host? =
      some (origin.address ++ String.ofList (List.replicate count '/'))) :
    ∃ client, Client.ofConfiguration config anchor = .ok client ∧
      (∀ {α : Type} (endpoint : Endpoint α), ∃ url : Url,
        (url.secure = origin.root.secure ∧ url.server = origin.root.server ∧
          url.door = origin.root.door) ∧
        (url.Asks endpoint ↔ Url.IsSegment endpoint.name) ∧
        ∀ now chance keeper carry, (client.call endpoint now chance keeper carry).sent =
          (keeper.provide now chance).1.toOption.map fun bearer =>
            ⟨endpoint.method, url, bearer⟩) ∧
      ∀ {α β : Type} (endpoint : Endpoint α) (other : Endpoint β) (now now' : Int)
        (chance chance' : Chance) (keeper keeper' : Keeper) (carry carry' : Request → Arrival)
        (request : Request),
        Url.IsSegment endpoint.name → Url.IsSegment other.name →
        (client.call endpoint now chance keeper carry).sent = some request →
        (client.call other now' chance' keeper' carry').sent = some request →
        endpoint.stem = other.stem ∧ endpoint.name = other.name ∧
          (endpoint.revision = other.revision →
            (⟨α, endpoint⟩ : Sigma Endpoint) = ⟨β, other⟩) := by
  refine ⟨_, Client.ofConfiguration_of_base base anchor, ?_, ?_⟩
  · intro α endpoint
    refine ⟨origin.asking endpoint, ?_, Url.asks_asking_iff origin endpoint,
      fun now chance keeper carry => Client.sent_call rfl endpoint now chance keeper carry⟩
    unfold Url.Origin.asking
    cases endpoint.revision with
    | none => exact ⟨rfl, rfl, rfl⟩
    | some revision => exact ⟨rfl, rfl, rfl⟩
  · intro α β endpoint other now now' chance chance' keeper keeper' carry carry' request segment
      segment' sent sent'
    rw [Client.sent_call rfl, Option.map_eq_some_iff] at sent sent'
    obtain ⟨bearer, _, rfl⟩ := sent
    obtain ⟨bearer', _, same⟩ := sent'
    have url : origin.asking other = origin.asking endpoint := congrArg Request.url same
    have asks := (Url.asks_asking_iff origin endpoint).mpr segment
    have asks' := (Url.asks_asking_iff origin other).mpr segment'
    obtain ⟨stem, name⟩ := asks.eq_of_asks (url ▸ asks')
    exact ⟨stem, name, Endpoint.eq_of_stem stem name⟩

namespace Specimen

/-- A configuration with two slashes after the name of the server. -/
def configuration : Configuration :=
  { Configuration.blank with override := some "https://localhost//" }

/-- Nothing comes back. -/
def silence (_ : Request) : Arrival := .nothing ""

theorem located : client.address = origin.address := by
  decide

theorem exists_provide : ∃ bearer,
    ((Keeper.ofCredential credential).provide 0 (chance 0)).1 = .ok bearer := by
  obtain ⟨token, minted⟩ := Credential.exists_mint usable 0 (chance 0)
  exact ⟨token.text, congrArg Prod.fst (Keeper.provide_of_mint
    (Keeper.isExpiredAt_ofCredential credential 0) minted)⟩

/-- A number is a segment, so a transaction is asked for by it. -/
theorem number_asked : ∃ (client : Client) (url : Url) (bearer : String),
    Client.ofConfiguration configuration Lettered.anchor = .ok client ∧
    url.Asks (.transaction "2000000123") ∧
    (client.call (.transaction "2000000123") 0 (chance 0) (.ofCredential credential) silence).sent =
      some ⟨.get, url, bearer⟩ := by
  obtain ⟨client, configured, asked, _⟩ :=
    addressed_iff_segment configuration Lettered.anchor origin 2 (by decide)
  obtain ⟨url, _, asks, sent⟩ := asked (.transaction "2000000123")
  obtain ⟨bearer, provided⟩ := exists_provide
  refine ⟨client, url, bearer, configured, asks.mpr (by decide), ?_⟩
  rw [sent, provided]
  rfl

/-- **A name that makes one question into another**: a caller who names a transaction gets the answer
about an order. And two names of transactions give one request, since what follows a number sign is
never sent. -/
theorem question_swapped :
    (∃ request,
      (client.call (.transaction "../lookup/A1") 0 (chance 0) (.ofCredential credential) silence).sent =
        some request ∧
      (client.call (.order "A1") 0 (chance 0) (.ofCredential credential) silence).sent =
        some request ∧
      ¬ request.url.Asks (.transaction "../lookup/A1")) ∧
    ∃ request,
      (client.call (.transaction "1#2") 0 (chance 0) (.ofCredential credential) silence).sent =
        some request ∧
      (client.call (.transaction "1") 0 (chance 0) (.ofCredential credential) silence).sent =
        some request := by
  obtain ⟨bearer, provided⟩ := exists_provide
  have swapped : origin.asking (.transaction "../lookup/A1") = origin.asking (.order "A1") := by
    decide +kernel
  have cut : origin.asking (.transaction "1#2") = origin.asking (.transaction "1") := by
    decide +kernel
  simp only [Client.sent_call located, provided]
  refine ⟨⟨_, rfl, congrArg some ?_, ?_⟩, ⟨_, rfl, congrArg some ?_⟩⟩
  · rw [swapped]
    rfl
  · rw [Url.asks_asking_iff]
    decide
  · rw [cut]
    rfl

end Specimen

end SignedPurchase
