import Mathlib.Data.List.Chain
import SignedPurchase.Proofs.Pem.First

/-
**Blocks as they are written.**

A block is written in lines of any lengths, which all end in the same way. It is the first block of every
text in which no mark stands before it, whatever stands after it.

* `PemBlock.IsWritten` says how a block is written, `PemBlock.IsPreamble` what may stand before it;
* `PemBlock.misses_of_isPreamble`: no begin mark is seen too early, or overlaps with what stands before;
* `PemBlock.separate_body`: the lines of a body are taken for a body, and not for headers;
* `PemBlock.contentOf?_bodyBytes`: they are put together again;
* `PemBlock.isFirst_of_isWritten`: a block that is written is the first one.
-/

namespace SignedPurchase

namespace PemBlock

/-! ### Writing -/

/-- How lines end. -/
def IsEnding (ending : List Char) : Prop :=
  ending = ['\n'] ∨ ending = ['\r', '\n']

/-- Lines with their endings. -/
def body (ending : List Char) (lines : List (List Char)) : List Char :=
  lines.flatMap fun line => line ++ ending

/-- **How a block is written**: a line with the begin mark and the tag, lines of base64 of any lengths,
and the end mark and the tag. -/
def IsWritten (block : PemBlock) (text : List Char) : Prop :=
  ∃ ending lines, IsEnding ending ∧ (∀ line ∈ lines, line ≠ []) ∧
    lines.flatten = (Base64.encode .standard .required block.content).toList ∧
    text = "-----BEGIN ".toList ++ block.tag.toList ++ "-----".toList ++ ending ++ body ending lines ++
      "-----END ".toList ++ block.tag.toList ++ "-----".toList

/-- **What may stand before a block**: lines in which there are no five dashes in a row. -/
structure IsPreamble (before : Bytes) : Prop where
  unmarked : ¬ tagMark <:+: before
  ended : ∀ last ∈ before.getLast?, last = 0x0A

/-! ### What stands before a block -/

/-- Fewer than five dashes and another byte are a miss. -/
theorem isMiss_dashes {count : Nat} {byte : UInt8} (few : count < 5) (other : byte ≠ 0x2D) :
    IsMiss beginMark (List.replicate count 0x2D ++ [byte]) := by
  have split : ∀ count < 5, beginMark =
      List.replicate count 0x2D ++ 0x2D :: beginMark.drop (count + 1) := by decide
  exact ⟨_, _, _, byte, split count few, other, rfl⟩

/-- **No mark is seen in what stands before a block**, and none that begins there: up to the next byte
that is no dash there are fewer than five of them, so the mark is given up there. -/
theorem misses_of_isPreamble {before : Bytes} (preamble : IsPreamble before) :
    Misses beginMark before := by
  induction size : before.length using Nat.strongRecOn generalizing before with
  | ind length ih =>
    have whole := List.takeWhile_append_dropWhile (p := (· == 0x2D)) (l := before)
    have dashes : before.takeWhile (· == 0x2D) =
        List.replicate (before.takeWhile (· == 0x2D)).length 0x2D := by
      refine List.eq_replicate_of_mem fun byte member => ?_
      have dash := List.mem_takeWhile_imp (p := (· == 0x2D)) member
      exact beq_iff_eq.mp dash
    generalize (before.takeWhile (· == 0x2D)).length = count at dashes
    rw [dashes] at whole
    cases left : before.dropWhile (· == 0x2D) with
    | nil =>
      rw [left, List.append_nil] at whole
      cases count with
      | zero =>
        rw [← whole]
        exact .nil
      | succ count =>
        have last := preamble.ended 0x2D (by rw [← whole, List.getLast?_replicate]; rfl)
        exact absurd last (by decide)
    | cons byte later =>
      have other : byte ≠ 0x2D := by
        have head := List.head?_dropWhile_not (· == 0x2D) before
        rw [left] at head
        exact beq_eq_false_iff_ne.mp head
      rw [left] at whole
      have few : count < 5 := by
        by_contra many
        refine preamble.unmarked ⟨[], List.replicate (count - 5) 0x2D ++ byte :: later, ?_⟩
        have marks : tagMark = List.replicate 5 0x2D := by decide
        rw [List.nil_append, marks, ← List.append_assoc, List.replicate_append_replicate,
          Nat.add_sub_cancel' (Nat.not_lt.mp many), whole]
      have parts : before = (List.replicate count 0x2D ++ [byte]) ++ later := by
        rw [← whole, List.append_assoc, List.singleton_append]
      have rest : IsPreamble later := by
        refine ⟨fun marked => preamble.unmarked ?_, fun last found => preamble.ended last ?_⟩
        · rw [parts]
          exact marked.trans (List.suffix_append _ _).isInfix
        · rw [parts, List.getLast?_append, Option.mem_def.mp found]
          rfl
      have shorter : later.length < length := by
        rw [← size, parts, List.length_append, List.length_append, List.length_singleton]
        omega
      rw [parts]
      exact .cons (isMiss_dashes few other) (ih later.length shorter rest rfl)

/-! ### Characters of a body -/

/-- A character that takes room on a line of a body, and is no dash. -/
structure IsBodyChar (char : Char) : Prop where
  small : char.toNat < 128
  filled : Blank.isBlank char = false
  undashed : char ≠ '-'

/-- Base64 is made of such characters. -/
theorem isBodyChar_of_mem_encode (content : Bytes) {char : Char}
    (member : char ∈ (Base64.encode .standard .required content).toList) : IsBodyChar char := by
  have each : ∀ value < 64, (Base64.Alphabet.standard.char value).toNat < 128 ∧
      Blank.isBlank (Base64.Alphabet.standard.char value) = false ∧
      Base64.Alphabet.standard.char value ≠ '-' := by decide
  rw [Base64.encode, String.toList_ofList] at member
  rcases List.mem_append.mp member with symbol | filling
  · obtain ⟨value, found, rfl⟩ := List.mem_map.mp symbol
    obtain ⟨small, filled, undashed⟩ := each value (Base64.sextetsOfBytes_lt content value found)
    exact ⟨small, filled, undashed⟩
  · rw [List.eq_of_mem_replicate filling]
    exact ⟨by decide, by decide, by decide⟩

theorem IsBodyChar.ne_of_isBlank {char blank : Char} (ordinary : IsBodyChar char)
    (room : Blank.isBlank blank = true) : char ≠ blank := by
  rintro rfl
  rw [ordinary.filled] at room
  cases room

/-- Its byte is no space, no line end and no dash. -/
theorem IsBodyChar.byte {char : Char} (ordinary : IsBodyChar char) :
    ∃ byte, String.utf8EncodeChar char = [byte] ∧ isSpace byte = false ∧ byte ≠ 0x0A ∧ byte ≠ 0x0D ∧
      byte ≠ 0x2D := by
  have each : ∀ number < 128, Blank.isBlank (Char.ofNat number) = false → Char.ofNat number ≠ '-' →
      isSpace (UInt8.ofNat number) = false ∧ UInt8.ofNat number ≠ 0x0A ∧ UInt8.ofNat number ≠ 0x0D ∧
        UInt8.ofNat number ≠ 0x2D := by decide +kernel
  refine ⟨_, Utf8.utf8EncodeChar_of_lt ordinary.small, each char.toNat ordinary.small ?_ ?_⟩
  · rw [Char.ofNat_toNat]
    exact ordinary.filled
  · rw [Char.ofNat_toNat]
    exact ordinary.undashed

/-! ### The bytes of a body -/

section Body

variable {ending : List Char} {lines : List (List Char)}

/-- The bytes of a body. -/
def bodyBytes (ending : List Char) (lines : List (List Char)) : Bytes :=
  (body ending lines).flatMap String.utf8EncodeChar

theorem bodyBytes_cons (line : List Char) :
    bodyBytes ending (line :: lines) = line.flatMap String.utf8EncodeChar ++
      (ending.flatMap String.utf8EncodeChar ++ bodyBytes ending lines) := by
  rw [bodyBytes, body, List.flatMap_cons, List.flatMap_append, List.flatMap_append, List.append_assoc]
  rfl

/-- What follows the end of a line is no other end of a line. -/
def Apart (byte next : UInt8) : Prop :=
  byte = 0x0A → next ≠ 0x0A ∧ next ≠ 0x0D

theorem isChain_apart {bytes : Bytes} (apart : ∀ byte ∈ bytes, byte ≠ 0x0A) :
    List.IsChain Apart bytes := by
  induction bytes with
  | nil => exact .nil
  | cons byte bytes ih =>
    obtain ⟨here, later⟩ := List.forall_mem_cons.mp apart
    exact List.isChain_cons.mpr ⟨fun _ _ same => absurd same here, ih later⟩

theorem IsEnding.isChain (ends : IsEnding ending) :
    List.IsChain Apart (ending.flatMap String.utf8EncodeChar) := by
  rcases ends with rfl | rfl
  · exact List.isChain_singleton _
  · exact List.isChain_pair.mpr fun same => absurd same (by decide)

variable (ends : IsEnding ending) (filled : ∀ line ∈ lines, line ≠ [])
  (ordinary : ∀ line ∈ lines, ∀ char ∈ line, IsBodyChar char)

include ordinary in
theorem IsBodyChar.bytes {line : List Char} (member : line ∈ lines) {byte : UInt8}
    (inside : byte ∈ line.flatMap String.utf8EncodeChar) :
    isSpace byte = false ∧ byte ≠ 0x0A ∧ byte ≠ 0x0D ∧ byte ≠ 0x2D := by
  obtain ⟨char, found, inside⟩ := List.mem_flatMap.mp inside
  obtain ⟨own, single, facts⟩ := (ordinary line member char found).byte
  rw [single, List.mem_singleton] at inside
  rw [inside]
  exact facts

include filled ordinary in
/-- A body begins with no space and no end of a line. -/
theorem head_bodyBytes : ∀ byte ∈ (bodyBytes ending lines).head?,
    isSpace byte = false ∧ byte ≠ 0x0A ∧ byte ≠ 0x0D := by
  cases lines with
  | nil => exact nofun
  | cons line lines =>
    cases line with
    | nil => exact absurd rfl (filled [] List.mem_cons_self)
    | cons char line =>
      obtain ⟨own, single, space, low, high, _⟩ :=
        (ordinary _ List.mem_cons_self char List.mem_cons_self).byte
      rw [bodyBytes_cons, List.flatMap_cons, single]
      rintro byte ⟨⟩
      exact ⟨space, low, high⟩

include ends filled ordinary in
theorem isChain_bodyBytes : List.IsChain Apart (bodyBytes ending lines) := by
  induction lines with
  | nil => exact .nil
  | cons line lines ih =>
    obtain ⟨_, later⟩ := List.forall_mem_cons.mp filled
    obtain ⟨here, rest⟩ := List.forall_mem_cons.mp ordinary
    have low : ∀ byte ∈ line.flatMap String.utf8EncodeChar, byte ≠ 0x0A := fun byte inside =>
      (IsBodyChar.bytes ordinary List.mem_cons_self inside).2.1
    rw [bodyBytes_cons]
    refine List.isChain_append.mpr ⟨isChain_apart low, List.isChain_append.mpr
      ⟨ends.isChain, ih later rest, ?_⟩, ?_⟩
    · exact fun _ _ byte first _ => (head_bodyBytes later rest byte first).2
    · exact fun byte last _ _ same => absurd same (low byte (List.mem_of_getLast? last))

include ends filled ordinary in
/-- **The lines of a body are taken for a body**, and not for headers. -/
theorem separate_body : separate (bodyBytes ending lines) = ([], bodyBytes ending lines) := by
  have chain := isChain_bodyBytes ends filled ordinary
  have unseen : ∀ front second later, (second = 0x0A ∨ second = 0x0D) →
      cut? (front ++ 0x0A :: second :: later) (bodyBytes ending lines) = none := by
    intro front second later ends
    refine Option.eq_none_iff_forall_ne_some.mpr fun ⟨before, rest⟩ cut => ?_
    obtain ⟨_, whole⟩ := cut?_eq_some_iff.mp cut
    have inside : [0x0A, second] <:+: bodyBytes ending lines := by
      rw [whole]
      exact ⟨before ++ front, later ++ rest, by simp⟩
    have pair := chain.infix inside
    have apart := List.isChain_pair.mp pair rfl
    rcases ends with rfl | rfl
    · exact apart.1 rfl
    · exact apart.2 rfl
  have single : cut? [0x0A, 0x0A] (bodyBytes ending lines) = none := unseen [] 0x0A [] (.inl rfl)
  have double : cut? [0x0D, 0x0A, 0x0D, 0x0A] (bodyBytes ending lines) = none :=
    unseen [0x0D] 0x0D [0x0A] (.inr rfl)
  rw [separate, single, double]

include ends ordinary in
/-- No dash stands in a body, so no end mark is seen in it or overlaps with it. -/
theorem misses_bodyBytes : Misses endMark (bodyBytes ending lines) := by
  have undashed : ∀ byte ∈ ending.flatMap String.utf8EncodeChar, byte ≠ 0x2D := by
    rcases ends with rfl | rfl <;> decide +kernel
  refine misses_of_head 0x2D (by decide) ?_
  induction lines with
  | nil => exact nofun
  | cons line lines ih =>
    obtain ⟨here, rest⟩ := List.forall_mem_cons.mp ordinary
    rw [bodyBytes_cons, List.forall_mem_append, List.forall_mem_append]
    refine ⟨fun byte inside => ?_, undashed, ih rest⟩
    exact (IsBodyChar.bytes ordinary List.mem_cons_self inside).2.2.2

/-! ### The lines of a body -/

/-- A line is cut off at its end. -/
theorem lines_append {front : List Char} (whole : ∀ char ∈ front, char ≠ '\n') (rest : List Char) :
    Blank.lines (front ++ '\n' :: rest) = front :: Blank.lines rest := by
  induction front with
  | nil => rfl
  | cons char front ih =>
    obtain ⟨here, later⟩ := List.forall_mem_cons.mp whole
    rw [List.cons_append, Blank.lines, if_neg here, ih later]

/-- What is left of a line without the blanks after it. -/
theorem trim_append {line blanks : List Char} (filled : ∀ char ∈ line, Blank.isBlank char = false)
    (blank : ∀ char ∈ blanks, Blank.isBlank char = true) : Blank.trim (line ++ blanks) = line := by
  cases line with
  | nil =>
    have none : blanks.dropWhile Blank.isBlank = [] := List.dropWhile_eq_nil_iff.mpr blank
    rw [List.nil_append, Blank.trim, none]
    rfl
  | cons char line =>
    have begins : ((char :: line) ++ blanks).dropWhile Blank.isBlank = (char :: line) ++ blanks := by
      rw [List.cons_append, List.dropWhile_cons_of_neg]
      rw [filled char List.mem_cons_self]
      exact Bool.false_ne_true
    have ends : (char :: line).reverse.dropWhile Blank.isBlank = (char :: line).reverse := by
      rw [List.dropWhile_eq_self_iff]
      intro long blank
      have member := List.mem_reverse.mp (List.get_mem (char :: line).reverse ⟨0, long⟩)
      exact absurd blank (Bool.eq_false_iff.mp (filled _ member))
    rw [Blank.trim, begins, List.reverse_append, List.dropWhile_append_of_pos, ends,
      List.reverse_reverse]
    intro char member
    exact blank char (List.mem_reverse.mp member)

include ends ordinary in
/-- The lines of a body, without the blanks at their ends, are put together again. -/
theorem flatMap_trim_lines : (Blank.lines (body ending lines)).flatMap Blank.trim = lines.flatten := by
  obtain ⟨blanks, blank, rfl⟩ : ∃ blanks : List Char,
      (∀ char ∈ blanks, Blank.isBlank char = true ∧ char ≠ '\n') ∧ ending = blanks ++ ['\n'] := by
    rcases ends with rfl | rfl
    · exact ⟨[], nofun, rfl⟩
    · exact ⟨['\r'], List.forall_mem_singleton.mpr (by decide), rfl⟩
  induction lines with
  | nil => rfl
  | cons line lines ih =>
    obtain ⟨here, rest⟩ := List.forall_mem_cons.mp ordinary
    have whole : ∀ char ∈ line ++ blanks, char ≠ '\n' := by
      rw [List.forall_mem_append]
      exact ⟨fun char member => (here char member).ne_of_isBlank (by decide),
        fun char member => (blank char member).2⟩
    have split : body (blanks ++ ['\n']) (line :: lines) =
        (line ++ blanks) ++ '\n' :: body (blanks ++ ['\n']) lines := by
      simp [body]
    rw [split, lines_append whole, List.flatMap_cons, ih rest, List.flatten_cons,
      trim_append (fun char member => (here char member).filled)
        fun char member => (blank char member).1]

include ends ordinary in
theorem contentOf?_bodyBytes :
    contentOf? (bodyBytes ending lines) = Base64.decode? .standard .required lines.flatten := by
  have text : Utf8.decode? (bodyBytes ending lines) = some (String.ofList (body ending lines)) :=
    Utf8.decode?_eq_some_iff.mpr (Utf8.encode_ofList _).symm
  rw [contentOf?, text]
  simp only [String.toList_ofList, flatMap_trim_lines ends ordinary]

end Body

/-! ### The block -/

/-- **A block that is written is the first one** of a text in which no mark stands before it, whatever
stands after it. -/
theorem isFirst_of_isWritten {block : PemBlock} {text : List Char} {before : Bytes}
    (written : block.IsWritten text) (named : block.tag ≠ "")
    (undashed : ∀ byte ∈ Utf8.encode block.tag, byte ≠ 0x2D) (preamble : IsPreamble before)
    (after : Bytes) :
    IsFirst (before ++ (Utf8.encode (String.ofList text) ++ after)) block := by
  obtain ⟨ending, lines, ends, filled, whole, rfl⟩ := written
  have ordinary : ∀ line ∈ lines, ∀ char ∈ line, IsBodyChar char := by
    intro line member char inside
    refine isBodyChar_of_mem_encode block.content ?_
    rw [← whole]
    exact List.mem_flatten.mpr ⟨line, member, inside⟩
  have encoded : ∀ text : String, text.toList.flatMap String.utf8EncodeChar = Utf8.encode text := by
    intro text
    rw [← Utf8.encode_ofList, String.ofList_toList]
  refine ⟨before, ending.flatMap String.utf8EncodeChar, bodyBytes ending lines, after, ?_,
    misses_of_isPreamble preamble, misses_of_head 0x2D (by decide) undashed,
    misses_bodyBytes ends ordinary, ?_, ?_, named, ?_, ?_⟩
  · simp only [Utf8.encode_ofList, List.flatMap_append, encoded, bodyBytes, List.append_assoc]
    rfl
  · rcases ends with rfl | rfl <;> decide +kernel
  · exact fun byte first => (head_bodyBytes filled ordinary byte first).1
  · rw [separate_body ends filled ordinary]
    show areHeaders [] = true
    decide
  · rw [separate_body ends filled ordinary, contentOf?_bodyBytes ends ordinary, whole]
    exact Base64.decode?_encode .standard block.content

end PemBlock

end SignedPurchase
