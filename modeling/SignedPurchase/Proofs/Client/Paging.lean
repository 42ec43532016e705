import SignedPurchase.Proofs.Client.Addressing
import SignedPurchase.Proofs.Json.Routes
import SignedPurchase.Proofs.Record.Absence
import SignedPurchase.Proofs.Url.Form

/-
**How pages are asked for.**

Two questions are answered in pages, and each page names the revision by which the next one is asked
for. A revision may be any text; it is written as a field of the query, and arrives as it was.

* `Book` is a question that is answered in pages, `Book.next` the revision that a page names;
* `Url.received` is what arrives of an address, `Url.received_target` what that is of an address with an
  ordinary path;
* `Url.IsUnreserved`: names of letters, digits and two marks are segments as they stand;
* `pages_asked`: what arrives for a page is its revision, and nothing else.
-/

namespace SignedPurchase

open Json

/-! ### What is answered in pages -/

/-- A question that is answered in pages. -/
inductive Book where
  | history
  | refunds

namespace Book

/-- A page. -/
def Page : Book → Type
  | .history => HistoryReply
  | .refunds => RefundReply

/-- Asks for the page with a revision, or for the first one. -/
def ask (id : String) (revision : Option String) : (book : Book) → Endpoint book.Page
  | .history => .history id revision
  | .refunds => .refunds id revision

/-- The revision that a page names. -/
def next : (book : Book) → book.Page → Option String
  | .history, page => page.revision
  | .refunds, page => page.revision

variable {book : Book} {id : String} {revision : Option String}

theorem name_ask : (book.ask id revision).name = id := by
  cases book <;> rfl

theorem revision_ask : (book.ask id revision).revision = revision := by
  cases book <;> rfl

theorem method_ask : (book.ask id revision).method = .get := by
  cases book <;> rfl

theorem path_ask (other : Option String) : (book.ask id revision).path = (book.ask id other).path := by
  cases book <;> rfl

/-- **The revision that a page names** is what the page gives for it. -/
theorem eq_map_next {route : Route} {draft : Draft} {page : book.Page}
    (read : (book.ask id revision).shape.read route draft = .ok page) :
    draft.given? "revision" 0 = (book.next page).map fun text => .text (some text) := by
  cases book with
  | history =>
    obtain ⟨values, found, rfl⟩ := Shape.read_via_eq_ok_iff.mp read
    have lacks : HistoryReply.members.MayLack "revision" .text 0 _ := .here
    exact Shape.eq_map_of_rel_text (lacks.of_read found)
  | refunds =>
    obtain ⟨values, found, rfl⟩ := Shape.read_via_eq_ok_iff.mp read
    have lacks : RefundReply.members.MayLack "revision" .text 0 _ := .here
    exact Shape.eq_map_of_rel_text (lacks.of_read found)

end Book

/-- Where there is no percent sign, there is no escape. -/
theorem Escape.holdsEscape_of_notMem {bytes : Bytes} (none : 0x25 ∉ bytes) :
    holdsEscape bytes = false := by
  fun_induction holdsEscape bytes with
  | case1 high low rest ih => exact absurd List.mem_cons_self none
  | case2 byte rest _ ih => exact ih (none ∘ List.mem_cons_of_mem byte)
  | case3 => rfl

namespace Url

/-! ### Names of ordinary characters -/

/-- Letters, digits and two marks never stand for anything but themselves. -/
def isUnreserved (char : Char) : Bool :=
  char.isAlphanum || char == '-' || char == '_'

/-- All characters of a name are such. -/
def IsUnreserved (name : String) : Prop :=
  ∀ char ∈ name.toList, isUnreserved char = true

/-- An unreserved character is plain in a path, and has no meaning there. -/
theorem plain_of_isUnreserved {char : Char} (unreserved : isUnreserved char = true) :
    char.toNat < 128 ∧ Escape.isPlainInPath char = true ∧ isSlash char = false ∧
      char ∉ ['.', '%', '?'] := by
  have each : ∀ number < 128, isUnreserved (Char.ofNat number) = true →
      Escape.isPlainInPath (Char.ofNat number) = true ∧ isSlash (Char.ofNat number) = false ∧
        Char.ofNat number ∉ ['.', '%', '?'] := by decide +kernel
  have small : char.toNat < 128 := by
    delta isUnreserved Char.isAlphanum Char.isAlpha Char.isUpper Char.isLower Char.isDigit at unreserved
    simp only [Bool.or_eq_true, beq_iff_eq, Bool.and_eq_true, decide_eq_true_eq] at unreserved
    rcases unreserved with ((((⟨_, below⟩ | ⟨_, below⟩)) | ⟨_, below⟩) | rfl) | rfl
    · exact Nat.lt_of_le_of_lt below (by decide)
    · exact Nat.lt_of_le_of_lt below (by decide)
    · exact Nat.lt_of_le_of_lt below (by decide)
    · decide
    · decide
  refine ⟨small, ?_⟩
  have found := each char.toNat small
  rw [Char.ofNat_toNat] at found
  exact found unreserved

theorem plainDots_eq_self {text : List Char} (unescaped : '%' ∉ text) : plainDots text = text := by
  fun_induction plainDots text with
  | case1 => rfl
  | case2 rest ih => exact absurd List.mem_cons_self unescaped
  | case3 rest ih => exact absurd List.mem_cons_self unescaped
  | case4 char rest _ _ ih => rw [ih (unescaped ∘ List.mem_cons_of_mem char)]

section Unreserved

variable {name : String} (unreserved : IsUnreserved name)

include unreserved

/-- A name of such characters is written in a path as it is. -/
theorem IsUnreserved.isFixed : IsFixed name := by
  have unescaped : '%' ∉ name.toList := by
    intro member
    exact (plain_of_isUnreserved (unreserved _ member)).2.2.2 (by decide)
  have undotted : '.' ∉ name.toList := by
    intro member
    exact (plain_of_isUnreserved (unreserved _ member)).2.2.2 (by decide)
  have apart : ∀ dots : List Char, '.' ∈ dots → (name.toList == dots) = false := by
    intro dots dotted
    rw [beq_eq_false_iff_ne]
    rintro same
    exact undotted (same ▸ dotted)
  refine ⟨fun char member => ?_, ?_⟩
  · obtain ⟨_, plain, whole, _⟩ := plain_of_isUnreserved (unreserved char member)
    exact ⟨plain, whole⟩
  · rw [isUp, isHere, plainDots_eq_self unescaped]
    exact ⟨apart _ (by decide), apart _ (by decide)⟩

/-- It holds no escape, since there is no percent sign among its bytes. -/
theorem IsUnreserved.holdsEscape_eq : Escape.holdsEscape (Utf8.encode name) = false := by
  refine Escape.holdsEscape_of_notMem fun member => ?_
  rw [← String.ofList_toList (s := name), Utf8.encode_ofList] at member
  obtain ⟨char, inside, member⟩ := List.mem_flatMap.mp member
  obtain ⟨small, _, _, other⟩ := plain_of_isUnreserved (unreserved char inside)
  rw [Utf8.utf8EncodeChar_of_lt small, List.mem_singleton] at member
  have same : char = '%' := by
    have value := congrArg UInt8.toNat member
    rw [UInt8.toNat_ofNat', Nat.mod_eq_of_lt (by omega)] at value
    exact Char.toNat_inj.mp value.symm
  rw [same] at other
  exact other (by decide)

/-- **A name of such characters is a segment as it stands.** -/
theorem IsUnreserved.isSegment : IsSegment name := by
  have plain : ∀ char ∈ name.toList, Escape.isPlainInPath char = true ∧ isBlank char = false := by
    intro char member
    have plain := (unreserved.isFixed.plain char member).1
    exact ⟨plain, isBlank_of_isGraphic (Bool.and_eq_true_iff.mp plain).1⟩
  refine ⟨fun char member => (unreserved.isFixed.plain char member).2, ?_, ?_, ?_, ?_, ?_⟩
  · exact fun char member => endsPath_of_isPlainInPath (plain char member).1
  · intro char member
    rw [Bool.eq_false_iff]
    intro breaks
    have blank := (plain char member).2
    rw [isBlank_of_isBreak breaks] at blank
    cases blank
  · exact fun char found => (plain char (List.mem_of_getLast? found)).2
  · rw [unreserved.isFixed.steady.1, unreserved.isFixed.steady.2]
    rfl
  · exact unreserved.holdsEscape_eq

end Unreserved

/-! ### What arrives -/

/-- What arrives of an address by the path and the query that are sent: the path, and the fields of the
query if there is one. -/
def received (target : String) : String × Option (List (String × String)) :=
  (String.ofList (target.toList.takeWhile (· != '?')),
    match target.toList.dropWhile (· != '?') with
    | [] => none
    | _ :: query => some (Form.fields query))

/-- **What arrives of an address** whose path holds no question mark. -/
theorem received_target {url : Url} (plain : ∀ char ∈ url.pathText, (char != '?') = true) :
    received url.target = (String.ofList url.pathText, url.query.map Form.fields) := by
  rw [target, received, String.toList_ofList]
  cases url.query with
  | none =>
    rw [List.append_nil, List.takeWhile_eq_self_iff.mpr plain, List.dropWhile_eq_nil_iff.mpr plain]
    rfl
  | some query =>
    rw [List.takeWhile_append_of_pos plain, List.dropWhile_append_of_pos plain]
    show (String.ofList (url.pathText ++ []), some (Form.fields query)) = _
    rw [List.append_nil]
    rfl

variable {α : Type} {endpoint : Endpoint α}

/-- A question goes to the server of the origin. -/
theorem server_asking (origin : Origin) (endpoint : Endpoint α) :
    (origin.asking endpoint).secure = origin.root.secure ∧
      (origin.asking endpoint).server = origin.root.server ∧
      (origin.asking endpoint).door = origin.root.door := by
  unfold Origin.asking
  cases endpoint.revision with
  | none => exact ⟨rfl, rfl, rfl⟩
  | some revision => exact ⟨rfl, rfl, rfl⟩

/-- A path is written as its segments, each after a slash. -/
theorem flatMap_slash (stem : List String) (last : List Char) :
    ((stem.map String.toList ++ [last]).flatMap fun segment => '/' :: segment) =
      '/' :: (Endpoint.slashed stem ++ last) := by
  induction stem with
  | nil => exact List.flatMap_singleton _ _
  | cons segment rest ih =>
    rw [List.map_cons, List.cons_append, List.flatMap_cons, ih, Endpoint.slashed, Endpoint.slashed,
      List.flatMap_cons, List.append_assoc, List.append_assoc]
    rfl

/-- The path of a question for such a name is written as it is. -/
theorem pathText_asking (origin : Origin) (unreserved : IsUnreserved endpoint.name) :
    (origin.asking endpoint).pathText = endpoint.path.toList := by
  rw [pathText, segments_asking_of_isSegment origin unreserved.isSegment, unreserved.isFixed.path_eq,
    flatMap_slash, endpoint.path_eq, String.toList_ofList]

/-- There is no query but for the page. -/
theorem query_asking_of_isSegment (origin : Origin) (segment : IsSegment endpoint.name) :
    (origin.asking endpoint).query =
      endpoint.revision.map fun revision => Escape.field "revision".toList revision.toList := by
  have none : (origin.under endpoint.stem endpoint.name).query = none := by
    show queryOf (afterPath endpoint.name.toList) = none
    rw [segment.afterPath_eq]
    rfl
  unfold Origin.asking
  cases endpoint.revision with
  | none => exact none
  | some revision =>
    show some _ = some _
    rw [none]

/-- **What arrives for a question** about such a name: its path, and the revision if one is asked
for. -/
theorem received_asking (origin : Origin) (unreserved : IsUnreserved endpoint.name) :
    received (origin.asking endpoint).target =
      (endpoint.path, endpoint.revision.map fun revision => [("revision", revision)]) := by
  have plain : ∀ char ∈ (origin.asking endpoint).pathText, (char != '?') = true := by
    rw [pathText_asking origin unreserved, endpoint.path_eq, String.toList_ofList]
    simp only [List.forall_mem_cons, List.forall_mem_append, bne_iff_ne]
    refine ⟨by decide, ?_, ?_⟩
    · intro char member
      rintro rfl
      exact absurd (slashed_plain (fixed_stem endpoint) _ member).2 (by decide)
    · intro char member
      rintro rfl
      exact (plain_of_isUnreserved (unreserved _ member)).2.2.2 (by decide)
  rw [received_target plain, pathText_asking origin unreserved, String.ofList_toList,
    query_asking_of_isSegment origin unreserved.isSegment, Option.map_map]
  simp only [Function.comp_def, Form.fields_field]

end Url

/-! ### All of it -/

/-- **What arrives for a page is its revision, and nothing else.** A client whose configuration names a
server and nothing else, but for any slashes, asks for a page of the history or of the refunds of a
transaction with a name of letters, digits and two marks. The request goes to that server, and is the
same whatever slashes there are. It has the path of the question with the name for its last segment,
and its query holds the revision, whatever characters this is made of, as its only field; without a
revision there is no query. So two requests with the same path and query ask for the same page, and the
revision that is read from a page asks for the page that it names. -/
theorem pages_asked (book : Book) (origin : Url.Origin) (id : String)
    (unreserved : Url.IsUnreserved id) :
    ∃ url : Option String → Url,
      (∀ config anchor count, config.override.or config.environment.host? =
          some (origin.address ++ String.ofList (List.replicate count '/')) →
        ∃ client, Client.ofConfiguration config anchor = .ok client ∧
          ∀ revision now chance keeper carry,
            (client.call (book.ask id revision) now chance keeper carry).sent =
              (keeper.provide now chance).1.toOption.map fun bearer => ⟨.get, url revision, bearer⟩) ∧
      (∀ revision, ((url revision).secure = origin.root.secure ∧
          (url revision).server = origin.root.server ∧ (url revision).door = origin.root.door) ∧
        (url revision).segments.getLast? = some id.toList ∧
        Url.received (url revision).target =
          ((book.ask id revision).path, revision.map fun text => [("revision", text)]) ∧
        ((url revision).query = none ↔ revision = none)) ∧
      (∀ revision other, (url revision).target = (url other).target → revision = other) ∧
      ∀ earlier bytes page text, (book.ask id earlier).shape.decode bytes = .ok page →
        (Document.read bytes).root.given? "revision" 0 = some (.text (some text)) →
        Url.received (url (book.next page)).target =
          ((book.ask id none).path, some [("revision", text)]) := by
  have named : ∀ revision, Url.IsUnreserved (book.ask id revision).name := by
    intro revision
    rw [Book.name_ask]
    exact unreserved
  have arrives : ∀ revision, Url.received (origin.asking (book.ask id revision)).target =
      ((book.ask id revision).path, revision.map fun text => [("revision", text)]) := by
    intro revision
    rw [Url.received_asking origin (named revision), Book.revision_ask]
  refine ⟨fun revision => origin.asking (book.ask id revision), ?_, ?_, ?_, ?_⟩
  · intro config anchor count base
    refine ⟨_, Client.ofConfiguration_of_base base anchor, ?_⟩
    intro revision now chance keeper carry
    rw [Client.sent_call rfl, Book.method_ask]
  · intro revision
    have segment := (named revision).isSegment
    refine ⟨Url.server_asking origin _, ?_, arrives revision, ?_⟩
    · rw [Url.segments_asking_of_isSegment origin segment, List.getLast?_concat,
        (named revision).isFixed.path_eq, Book.name_ask]
    · rw [Url.query_asking_of_isSegment origin segment, Option.map_eq_none_iff, Book.revision_ask]
  · intro revision other same
    have fields := congrArg (fun target => (Url.received target).2) same
    simp only [arrives] at fields
    exact Option.map_injective (fun _ _ same => by simpa using same) fields
  · intro earlier bytes page text decoded given
    obtain ⟨read, _⟩ := Shape.decode_eq_ok_iff.mp decoded
    rw [Book.eq_map_next read, Option.map_eq_some_iff] at given
    obtain ⟨found, next, same⟩ := given
    cases same
    rw [arrives, next, Book.path_ask none]
    rfl

namespace Specimen

/-- A revision of many kinds of characters, all of which mean something in some place. -/
def revision : String := "a&b=c+d%20e#f ?g/é€"

/-- **A revision arrives as it was**, whatever it is made of. -/
theorem revision_arrives : ∃ (client : Client) (url : Url) (bearer : String),
    Client.ofConfiguration configuration Lettered.anchor = .ok client ∧
    (client.call (.history "2000000123" (some revision)) 0 (chance 0) (.ofCredential credential)
      silence).sent = some ⟨.get, url, bearer⟩ ∧
    Url.received url.target =
      ("/inApps/v1/history/2000000123", some [("revision", revision)]) := by
  have unreserved : Url.IsUnreserved "2000000123" := by
    rw [Url.IsUnreserved, ← List.all_eq_true]
    decide
  obtain ⟨url, sent, arrives, _⟩ := pages_asked .history origin "2000000123" unreserved
  obtain ⟨client, configured, sent⟩ := sent configuration Lettered.anchor 2 (by decide)
  obtain ⟨bearer, provided⟩ := exists_provide
  obtain ⟨_, _, received, _⟩ := arrives (some revision)
  refine ⟨client, url (some revision), bearer, configured, ?_, received⟩
  have asked := sent (some revision) 0 (chance 0) (.ofCredential credential) silence
  rw [provided] at asked
  exact asked

end Specimen

end SignedPurchase
