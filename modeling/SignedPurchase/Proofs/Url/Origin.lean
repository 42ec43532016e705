import Mathlib.Data.Bool.AllAny
import Mathlib.Data.List.DropRight
import Mathlib.Data.List.TakeWhile
import SignedPurchase.Url.Basic

/-
**What is read after the address of a server.**

An address that ends with the name of its server, and its door, is read the same whatever path follows
it. The path is taken for what it is written as: cut at its slashes, stepped through, and ended by the
first question mark or number sign.

* `Url.Origin` is a scheme and what names a server and its door;
* `Url.Origin.ofText?_append` reads an origin with anything after its slash;
* `Url.resolve_append` and `Url.getLast?_resolve` take the steps within a path.
-/

namespace SignedPurchase

namespace Url

/-- The scheme and the server of an address, and nothing else. -/
structure Origin where
  secure : Bool
  /-- The scheme, in any case of its letters. -/
  scheme : List Char
  /-- What names the server and its door. -/
  authority : List Char
  door : Option Nat
  named : scheme.map Char.toLower = (if secure then "https" else "http").toList
  /-- The server is named in plain characters, without a name of a user before it. -/
  plain : ∀ char ∈ authority, Escape.isGraphic char = true ∧ isSlash char = false ∧
    endsPath char = false ∧ char ≠ '@'
  serves : isServer (splitServer authority).1 = true
  opens : door? secure (splitServer authority).2 = some door

/-- The text of an origin. -/
def Origin.address (origin : Origin) : String :=
  String.ofList (origin.scheme ++ ':' :: '/' :: '/' :: origin.authority)

/-- A text is the address of a server and nothing else. -/
def IsOrigin (address : String) : Prop :=
  ∃ origin : Origin, origin.address = address

/-- What is kept of the end of a text: all but the blanks after it and the breaks within it. -/
def kept (text : List Char) : List Char :=
  (text.rdropWhile isBlank).filter fun char => !isBreak char

/-! ### Blanks and breaks -/

section Cleaning

variable {front text : List Char}

theorem isBlank_of_isGraphic {char : Char} (graphic : Escape.isGraphic char = true) :
    isBlank char = false := by
  have above : '!' ≤ char := of_decide_eq_true (Bool.and_eq_true_iff.mp graphic).1
  refine decide_eq_false fun blank => ?_
  have impossible : '!' ≤ ' ' := Char.le_trans above blank
  exact absurd impossible (by decide)

theorem isBlank_of_isBreak {char : Char} (breaks : isBreak char = true) : isBlank char = true := by
  simp only [isBreak, Bool.or_eq_true, beq_iff_eq] at breaks
  rcases breaks with (rfl | rfl) | rfl <;> decide

theorem filter_eq_self (plain : ∀ char ∈ front, isBlank char = false) :
    front.filter (fun char => !isBreak char) = front := by
  rw [List.filter_eq_self]
  intro char member
  cases breaks : isBreak char with
  | false => rfl
  | true =>
    have blank := plain char member
    rw [isBlank_of_isBreak breaks] at blank
    cases blank

/-- Nothing is dropped before the last character that is no blank. -/
theorem kept_append (plain : ∀ char ∈ front, isBlank char = false) (text : List Char) :
    kept (front ++ text) = front ++ kept text := by
  have ends : (front ++ text).rdropWhile isBlank = front ++ text.rdropWhile isBlank := by
    induction text using List.reverseRecOn with
    | nil =>
      rw [List.append_nil, List.rdropWhile_nil, List.append_nil, List.rdropWhile_eq_self_iff]
      intro some blank
      rw [plain _ (List.getLast_mem some)] at blank
      cases blank
    | append_singleton rest char ih =>
      rw [← List.append_assoc, List.rdropWhile_concat, List.rdropWhile_concat, ih]
      split
      · rfl
      · exact List.append_assoc front rest [char]
  rw [kept, ends, List.filter_append, filter_eq_self plain, kept]

theorem clean_append (plain : ∀ char ∈ front, isBlank char = false) (some : front ≠ [])
    (text : List Char) : clean (front ++ text) = front ++ kept text := by
  have begins : (front ++ text).dropWhile isBlank = front ++ text := by
    cases front with
    | nil => exact absurd rfl some
    | cons char rest =>
      rw [List.cons_append, List.dropWhile_cons_of_neg]
      rw [plain char List.mem_cons_self]
      decide
  rw [← kept_append plain]
  show kept ((front ++ text).dropWhile isBlank) = _
  rw [begins]

end Cleaning

/-! ### Segments -/

section Segments

variable {text : List Char}

/-- The segments of a text are what is left of it between its slashes. -/
theorem segmentsOf_eq_splitOnP (text : List Char) : segmentsOf text = text.splitOnP isSlash := by
  induction text with
  | nil => rfl
  | cons char rest ih =>
    rw [List.splitOnP_cons_eq_if_modifyHead, segmentsOf, ih]
    by_cases slash : isSlash char = true
    · rw [if_pos slash, if_pos slash]
    · rw [if_neg slash, if_neg slash]
      cases split : rest.splitOnP isSlash with
      | nil => exact absurd split (List.splitOnP_ne_nil isSlash rest)
      | cons first others => rfl

theorem segmentsOf_append (front : List Char) {slash : Char} (separates : isSlash slash = true)
    (rest : List Char) :
    segmentsOf (front ++ slash :: rest) = segmentsOf front ++ segmentsOf rest := by
  rw [segmentsOf_eq_splitOnP, segmentsOf_eq_splitOnP, segmentsOf_eq_splitOnP,
    List.splitOnP_append_cons front rest separates]

theorem segmentsOf_of_unparted (unparted : ∀ char ∈ text, isSlash char = false) :
    segmentsOf text = [text] := by
  rw [segmentsOf_eq_splitOnP, List.splitOnP_eq_singleton unparted]

/-- The last segment of a text is its end after the last slash. -/
theorem getLast?_segmentsOf (text : List Char) :
    ∃ last, (segmentsOf text).getLast? = some last ∧ last <:+ text ∧
      ∀ char ∈ last, isSlash char = false := by
  by_cases unparted : ∀ char ∈ text, isSlash char = false
  · rw [segmentsOf_of_unparted unparted]
    exact ⟨text, rfl, List.suffix_refl text, unparted⟩
  · simp only [not_forall, Bool.not_eq_false] at unparted
    obtain ⟨slash, member, separates⟩ := unparted
    obtain ⟨front, rest, split⟩ := List.append_of_mem member
    have shorter : rest.length < text.length := by
      rw [split, List.length_append, List.length_cons]
      omega
    obtain ⟨last, found, ends, plain⟩ := getLast?_segmentsOf rest
    rw [split]
    refine ⟨last, ?_, ?_, plain⟩
    · rw [segmentsOf_append front separates, List.getLast?_append, found]
      rfl
    · exact ends.trans ((List.suffix_cons slash rest).trans (List.suffix_append front _))
termination_by text.length

/-! ### Steps -/

/-- Segments that are no steps are taken as they are. -/
theorem resolve_append {front segments : List (List Char)}
    (steady : ∀ segment ∈ front, isUp segment = false ∧ isHere segment = false)
    (some : segments ≠ []) (before : List (List Char)) :
    resolve before (front ++ segments) =
      resolve ((front.map Escape.path).reverse ++ before) segments := by
  induction front generalizing before with
  | nil => rfl
  | cons segment rest ih =>
    obtain ⟨⟨up, here⟩, later⟩ := List.forall_mem_cons.mp steady
    have more : rest ++ segments ≠ [] := List.append_ne_nil_of_right_ne_nil rest some
    rw [List.cons_append, resolve.eq_3 _ _ _ more, if_neg (Bool.eq_false_iff.mp up),
      if_neg (Bool.eq_false_iff.mp here), ih later, List.map_cons, List.reverse_cons,
      List.append_assoc, List.singleton_append]

/-- **What the last segment becomes**: a step leaves nothing, everything else is escaped. -/
theorem getLast?_resolve {segments : List (List Char)} {last : List Char}
    (found : segments.getLast? = some last) (before : List (List Char)) :
    (resolve before segments).getLast? =
      some (if isUp last || isHere last then [] else Escape.path last) := by
  induction segments generalizing before with
  | nil => cases found
  | cons segment rest ih =>
    cases rest with
    | nil =>
      obtain rfl : segment = last := Option.some.inj found
      cases up : isUp segment
      · cases here : isHere segment
        · simp [resolve, up, here]
        · simp [resolve, up, here]
      · simp [resolve, up]
    | cons next later =>
      rw [List.getLast?_cons_cons] at found
      rw [resolve.eq_3 before segment _ (List.cons_ne_nil next later)]
      split
      · exact ih found _
      · split
        · exact ih found _
        · exact ih found _

theorem resolve_single {segment : List Char} (steady : (isUp segment || isHere segment) = false)
    (before : List (List Char)) :
    resolve before [segment] = before.reverse ++ [Escape.path segment] := by
  obtain ⟨up, here⟩ := Bool.or_eq_false_iff.mp steady
  rw [resolve, if_neg (Bool.eq_false_iff.mp up), if_neg (Bool.eq_false_iff.mp here),
    List.reverse_cons]

end Segments

/-! ### Origins -/

namespace Origin

variable (origin : Origin)

/-- An origin with nothing after it but a slash. -/
def root : Url where
  secure := origin.secure
  server := (splitServer origin.authority).1.map Char.toLower
  door := origin.door
  segments := [[]]
  query := none

theorem scheme_plain : ∀ char ∈ origin.scheme, isBlank char = false ∧ char ≠ ':' := by
  intro char member
  have lower : char.toLower ∈ (if origin.secure then "https" else "http").toList :=
    origin.named ▸ List.mem_map_of_mem member
  have letter : char.toLower ∈ "https".toList := by
    revert lower
    cases origin.secure with
    | false => exact fun lower => List.mem_append_left ['s'] lower
    | true => exact id
  refine ⟨?_, ?_⟩
  · have each : ∀ number ≤ 32, (Char.ofNat number).toLower ∉ "https".toList := by decide
    refine Bool.eq_false_iff.mpr fun blank => each char.toNat (of_decide_eq_true blank) ?_
    rw [Char.ofNat_toNat]
    exact letter
  · rintro rfl
    revert letter
    decide

theorem authority_ne_nil : origin.authority ≠ [] := by
  intro empty
  have serves := origin.serves
  rw [empty] at serves
  cases serves

/-- The text of an origin does not end with a slash. -/
theorem getLast_address (some : origin.address.toList ≠ []) :
    isSlash (origin.address.toList.getLast some) = false := by
  have ends : origin.address.toList.getLast some =
      origin.authority.getLast origin.authority_ne_nil := by
    simp [address, List.getLast_cons, origin.authority_ne_nil]
  rw [ends]
  exact (origin.plain _ (List.getLast_mem origin.authority_ne_nil)).2.1

theorem front_plain :
    ∀ char ∈ origin.scheme ++ ':' :: '/' :: '/' :: origin.authority ++ ['/'],
      isBlank char = false := by
  have authority : ∀ char ∈ origin.authority, isBlank char = false :=
    fun char member => isBlank_of_isGraphic (origin.plain char member).1
  have scheme : ∀ char ∈ origin.scheme, isBlank char = false :=
    fun char member => (origin.scheme_plain char member).1
  simp only [List.forall_mem_append, List.forall_mem_cons]
  exact ⟨⟨scheme, by decide, by decide, by decide, authority⟩, by decide, nofun⟩

theorem scheme?_append (rest : List Char) :
    scheme? (origin.scheme ++ ':' :: rest) = some (origin.secure, rest) := by
  have others : ∀ char ∈ origin.scheme, (char != ':') = true :=
    fun char member => bne_iff_ne.mpr (origin.scheme_plain char member).2
  rw [scheme?, List.takeWhile_append_of_pos others, List.dropWhile_append_of_pos others,
    List.takeWhile_cons_of_neg (by decide), List.dropWhile_cons_of_neg (by decide),
    List.append_nil, origin.named]
  cases origin.secure with
  | false => rfl
  | true => rfl

/-- **An origin is read the same whatever comes after its slash.** -/
theorem ofText?_append (tail : List Char) :
    ofText? (origin.address ++ String.ofList ('/' :: tail)) = some
      { origin.root with
        segments := resolve [] (segmentsOf ((kept tail).takeWhile fun char => !endsPath char))
        query := queryOf ((kept tail).dropWhile fun char => !endsPath char) } := by
  have cleaned : clean (origin.address ++ String.ofList ('/' :: tail)).toList =
      origin.scheme ++ ':' :: '/' :: '/' :: (origin.authority ++ '/' :: kept tail) := by
    have split : (origin.address ++ String.ofList ('/' :: tail)).toList =
        (origin.scheme ++ ':' :: '/' :: '/' :: origin.authority ++ ['/']) ++ tail := by
      simp [address]
    rw [split, clean_append origin.front_plain (by simp)]
    simp
  have started : ('/' :: '/' :: (origin.authority ++ '/' :: kept tail)).dropWhile isSlash =
      origin.authority ++ '/' :: kept tail := by
    rw [List.dropWhile_cons_of_pos rfl, List.dropWhile_cons_of_pos rfl]
    cases split : origin.authority with
    | nil => exact absurd split origin.authority_ne_nil
    | cons first rest =>
      have slash := (origin.plain first (split ▸ List.mem_cons_self)).2.1
      rw [List.cons_append, List.dropWhile_cons_of_neg (Bool.eq_false_iff.mp slash)]
  have inside : ∀ char ∈ origin.authority, (!(isSlash char || endsPath char)) = true := by
    intro char member
    obtain ⟨_, slash, ends, _⟩ := origin.plain char member
    rw [slash, ends]
    rfl
  have userless : afterLast '@' origin.authority = origin.authority := by
    rw [afterLast, List.takeWhile_eq_self_iff.mpr, List.reverse_reverse]
    intro char member
    exact bne_iff_ne.mpr (origin.plain char (List.mem_reverse.mp member)).2.2.2
  have ended : (!(isSlash '/' || endsPath '/')) = false := rfl
  have rooted : (!endsPath '/') = true := rfl
  rw [ofText?, cleaned, scheme?_append]
  simp only [started, List.takeWhile_append_of_pos inside, List.dropWhile_append_of_pos inside,
    List.takeWhile_cons, List.dropWhile_cons, ended, rooted, if_true, Bool.false_eq_true, if_false,
    List.append_nil, userless, origin.serves, origin.opens]
  rfl

end Origin

end Url

/-- A server on the same machine. -/
def Specimen.origin : Url.Origin where
  secure := true
  scheme := "https".toList
  authority := "localhost".toList
  door := none
  named := by decide
  plain := List.all_iff_forall_prop.mp (by decide)
  serves := by decide
  opens := by decide

end SignedPurchase
