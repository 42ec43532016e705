import Mathlib.Data.List.TakeWhile
import SignedPurchase.Pem
import SignedPurchase.Proofs.Text.Base64
import SignedPurchase.Proofs.Text.Utf8

/-
**Which block is the first.**

A mark is sought byte by byte: on a byte that does not fit it is sought anew after that byte. So what
stands before the mark is made up of misses, and a mark that overlaps with one of them is not seen.

* `PemBlock.Misses` says what may stand before a mark, `PemBlock.cut?_eq_some_iff` that this is what is
  cut off;
* `PemBlock.IsFirst` says that a block is the first of a text, `PemBlock.read?_eq_some_iff` that it is the
  one that is read.
-/

namespace SignedPurchase

theorem Utf8.decode?_eq_some_iff {bytes : Bytes} {text : String} :
    decode? bytes = some text ↔ bytes = encode text := by
  refine ⟨?_, ?_⟩
  · intro read
    unfold decode? at read
    rw [String.fromUTF8?] at read
    simp only [Option.dite_none_right_eq_some, Option.some.injEq] at read
    obtain ⟨valid, rfl⟩ := read
    rfl
  · rintro rfl
    exact decode?_encode text

namespace PemBlock

variable {mark bytes rest : Bytes}

/-! ### Seeking a mark -/

/-- Bytes at which a mark is given up: some of it, and a byte that does not fit. -/
def IsMiss (mark miss : Bytes) : Prop :=
  ∃ attempt expected pending byte, mark = attempt ++ expected :: pending ∧ byte ≠ expected ∧
    miss = attempt ++ [byte]

/-- Bytes at which a mark is given up again and again. -/
inductive Misses (mark : Bytes) : Bytes → Prop where
  | nil : Misses mark []
  | cons {miss rest : Bytes} (here : IsMiss mark miss) (later : Misses mark rest) :
    Misses mark (miss ++ rest)

theorem not_isMiss_nil (miss : Bytes) : ¬ IsMiss [] miss := by
  rintro ⟨attempt, expected, pending, byte, whole, _⟩
  cases attempt <;> cases whole

/-- A miss that begins as the mark does goes on to be one of the rest of it. -/
theorem isMiss_cons_iff {expected : UInt8} {pending miss : Bytes} :
    IsMiss (expected :: pending) miss ↔ (∃ byte, byte ≠ expected ∧ miss = [byte]) ∨
      ∃ later, IsMiss pending later ∧ miss = expected :: later := by
  refine ⟨?_, ?_⟩
  · rintro ⟨attempt, other, left, byte, whole, apart, rfl⟩
    cases attempt with
    | nil =>
      cases whole
      exact .inl ⟨byte, apart, rfl⟩
    | cons first attempt =>
      cases whole
      exact .inr ⟨attempt ++ [byte], ⟨attempt, other, left, byte, rfl, apart, rfl⟩, rfl⟩
  · rintro (⟨byte, apart, rfl⟩ | ⟨_, ⟨attempt, other, left, byte, rfl, apart, rfl⟩, rfl⟩)
    · exact ⟨[], expected, pending, byte, rfl, apart, rfl⟩
    · exact ⟨expected :: attempt, other, left, byte, rfl, apart, rfl⟩

/-- **What a mark is found after**, when a part of it is still to be seen: nothing, or a miss of that part
and misses of the mark. -/
theorem after?_eq_some_iff {pending : Bytes} :
    after? mark pending bytes = some rest ↔ bytes = pending ++ rest ∨
      ∃ miss before, IsMiss pending miss ∧ Misses mark before ∧
        bytes = miss ++ (before ++ (mark ++ rest)) := by
  induction bytes generalizing pending with
  | nil =>
    cases pending with
    | nil => simp [after?, not_isMiss_nil, eq_comm]
    | cons expected pending =>
      rw [after?]
      refine ⟨nofun, ?_⟩
      rintro (whole | ⟨miss, before, ⟨attempt, _, _, byte, _, _, rfl⟩, _, whole⟩)
      · cases whole
      · cases attempt <;> cases whole
  | cons byte bytes ih =>
    cases pending with
    | nil => simp [after?, not_isMiss_nil, eq_comm]
    | cons expected pending =>
      rw [after?]
      split
      · next same =>
        subst same
        rw [ih]
        refine ⟨?_, ?_⟩
        · rintro (rfl | ⟨miss, before, here, later, rfl⟩)
          · exact .inl rfl
          · exact .inr ⟨byte :: miss, before, isMiss_cons_iff.mpr (.inr ⟨miss, here, rfl⟩), later, rfl⟩
        · rintro (whole | ⟨miss, before, here, later, whole⟩)
          · exact .inl (List.cons.inj whole).2
          · rcases isMiss_cons_iff.mp here with ⟨other, apart, rfl⟩ | ⟨tail, there, rfl⟩
            · exact absurd (List.cons.inj whole).1.symm apart
            · exact .inr ⟨tail, before, there, later, (List.cons.inj whole).2⟩
      · next apart =>
        rw [ih]
        refine ⟨?_, ?_⟩
        · intro found
          refine .inr ⟨[byte], ?_⟩
          rcases found with rfl | ⟨miss, before, here, later, rfl⟩
          · exact ⟨[], isMiss_cons_iff.mpr (.inl ⟨byte, apart, rfl⟩), .nil, rfl⟩
          · refine ⟨miss ++ before, isMiss_cons_iff.mpr (.inl ⟨byte, apart, rfl⟩), .cons here later, ?_⟩
            rw [List.append_assoc]
            rfl
        · rintro (whole | ⟨miss, before, here, later, whole⟩)
          · exact absurd (List.cons.inj whole).1 apart
          · rcases isMiss_cons_iff.mp here with ⟨other, _, rfl⟩ | ⟨miss, _, rfl⟩
            · obtain rfl := (List.cons.inj whole).2
              cases later with
              | nil => exact .inl rfl
              | cons here later =>
                rw [List.append_assoc]
                exact .inr ⟨_, _, here, later, rfl⟩
            · exact absurd (List.cons.inj whole).1 apart

/-- **What is cut off before a mark** is made up of misses. -/
theorem cut?_eq_some_iff {before : Bytes} :
    cut? mark bytes = some (before, rest) ↔
      Misses mark before ∧ bytes = before ++ (mark ++ rest) := by
  have found : after? mark mark bytes = some rest ↔
      ∃ before, Misses mark before ∧ bytes = before ++ (mark ++ rest) := by
    rw [after?_eq_some_iff]
    refine ⟨?_, ?_⟩
    · rintro (rfl | ⟨miss, before, here, later, rfl⟩)
      · exact ⟨[], .nil, rfl⟩
      · exact ⟨miss ++ before, .cons here later, (List.append_assoc _ _ _).symm⟩
    · rintro ⟨_, misses, rfl⟩
      cases misses with
      | nil => exact .inl rfl
      | cons here later => exact .inr ⟨_, _, here, later, List.append_assoc _ _ _⟩
  have front : ∀ before : Bytes, (before ++ (mark ++ rest)).take
      ((before ++ (mark ++ rest)).length - rest.length - mark.length) = before := by
    intro before
    have size : (before ++ (mark ++ rest)).length - rest.length - mark.length = before.length := by
      rw [List.length_append, List.length_append]
      omega
    rw [size, List.take_left]
  rw [cut?]
  refine ⟨?_, ?_⟩
  · intro cut
    split at cut
    · next left seen =>
      cases cut
      obtain ⟨before, misses, rfl⟩ := found.mp seen
      rw [front]
      exact ⟨misses, rfl⟩
    · cases cut
  · rintro ⟨misses, rfl⟩
    rw [found.mpr ⟨before, misses, rfl⟩]
    simp only [front]

/-- Bytes none of which begins a mark are misses of it. -/
theorem misses_of_head (first : UInt8) {before : Bytes} (begins : mark.head? = some first)
    (apart : ∀ byte ∈ before, byte ≠ first) : Misses mark before := by
  obtain ⟨later, rfl⟩ := List.head?_eq_some_iff.mp begins
  induction before with
  | nil => exact .nil
  | cons byte before ih =>
    obtain ⟨here, rest⟩ := List.forall_mem_cons.mp apart
    exact .cons (isMiss_cons_iff.mpr (.inl ⟨byte, here, rfl⟩)) (ih rest)

/-! ### The first block -/

/-- **A block is the first of a text**: it stands after the first begin mark, with its tag at both ends,
and what is inside it is lines of headers and a body of base64. -/
def IsFirst (bytes : Bytes) (block : PemBlock) : Prop :=
  ∃ before gap inside after, bytes = before ++ (beginMark ++ (Utf8.encode block.tag ++ (tagMark ++
      (gap ++ (inside ++ (endMark ++ (Utf8.encode block.tag ++ (tagMark ++ after)))))))) ∧
    Misses beginMark before ∧ Misses tagMark (Utf8.encode block.tag) ∧ Misses endMark inside ∧
    (∀ byte ∈ gap, isSpace byte = true) ∧ (∀ byte ∈ inside.head?, isSpace byte = false) ∧
    block.tag ≠ "" ∧ areHeaders (separate inside).1 = true ∧
    contentOf? (separate inside).2 = some block.content

/-- **The block that is read is the first one.** -/
theorem read?_eq_some_iff {block : PemBlock} : read? bytes = some block ↔ IsFirst bytes block := by
  unfold read?
  simp only [Option.bind_eq_bind, Option.bind_eq_some_iff, cut?_eq_some_iff, Prod.exists,
    Utf8.decode?_eq_some_iff, Option.ite_none_right_eq_some, Bool.and_eq_true, decide_eq_true_eq,
    Option.some.injEq, Bool.not_eq_true', List.isEmpty_eq_false_iff]
  refine ⟨?_, ?_⟩
  · rintro ⟨before, rest, ⟨begun, rfl⟩, first, rest', ⟨named, rfl⟩, inside, rest'', ⟨ended, cut⟩, last, after,
      ⟨_, rfl⟩, tag, rfl, content, read, ⟨⟨some, rfl⟩, headed⟩, rfl⟩
    have whole := List.takeWhile_append_dropWhile (p := isSpace) (l := rest')
    rw [cut] at whole
    refine ⟨before, rest'.takeWhile isSpace, inside, after, ?_, begun, named, ended,
      fun byte member => List.mem_takeWhile_imp member, ?_, ?_, headed, read⟩
    · rw [whole]
    · intro byte first
      have head := List.head?_dropWhile_not isSpace rest'
      rw [cut, List.head?_append, Option.mem_def.mp first] at head
      exact head
    · rintro rfl
      exact some rfl
  · rintro ⟨before, gap, inside, after, rfl, begun, named, ended, blank, filled, some, headed, read⟩
    refine ⟨before, _, ⟨begun, rfl⟩, _, _, ⟨named, rfl⟩, inside, _, ⟨ended, ?_⟩, _, after, ⟨named, rfl⟩,
      block.tag, rfl, block.content, read, ⟨⟨?_, rfl⟩, headed⟩, rfl⟩
    · rw [List.dropWhile_append_of_pos blank]
      cases inside with
      | nil => rfl
      | cons first inside =>
        rw [List.cons_append, List.dropWhile_cons_of_neg]
        rw [filled first rfl]
        exact Bool.false_ne_true
    · intro empty
      exact some (Utf8.encode_inj empty)

theorem read?_eq_none_iff : read? bytes = none ↔ ∀ block, ¬ IsFirst bytes block := by
  simp only [Option.eq_none_iff_forall_ne_some, ne_eq, read?_eq_some_iff]

end PemBlock

end SignedPurchase
