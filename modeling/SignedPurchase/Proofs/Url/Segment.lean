import Mathlib.Data.List.Flatten
import SignedPurchase.Proofs.Text.Utf8
import SignedPurchase.Proofs.Url.Origin
import SignedPurchase.Proofs.Url.Percent

/-
**Texts that are segments as they stand.**

A text that is written at the end of a path need not become its last segment. It may be cut in two, end
the path, lose characters, be taken for a step, or hold what is taken for an escape. `Url.IsSegment`
excludes all of these, and nothing else:

* `Url.IsSegment.pathPart_eq`: a segment is read as it is written;
* `Url.isSegment_of_opened`: what comes back as it was written is a segment.
-/

namespace SignedPurchase

namespace Url

/-- A name is a segment as it stands: nothing in it ends a segment or the path, nothing of it is
dropped, it is no step, and it holds no escape. -/
structure IsSegment (name : String) : Prop where
  unparted : ∀ char ∈ name.toList, isSlash char = false
  unended : ∀ char ∈ name.toList, endsPath char = false
  unbroken : ∀ char ∈ name.toList, isBreak char = false
  unblank : ∀ char ∈ name.toList.getLast?, isBlank char = false
  steady : (isUp name.toList || isHere name.toList) = false
  unescaped : Escape.holdsEscape (Utf8.encode name) = false

/-- The characters of a name are looked at one by one, as far as the name goes. -/
instance (name : String) : Decidable (IsSegment name) :=
  decidable_of_iff
    (name.toList.all (isSlash · = false) ∧ name.toList.all (endsPath · = false) ∧
      name.toList.all (isBreak · = false) ∧ name.toList.getLast?.toList.all (isBlank · = false) ∧
      (isUp name.toList || isHere name.toList) = false ∧
      Escape.holdsEscape (Utf8.encode name) = false)
    (by
      simp only [List.all_iff_forall_prop, Option.mem_toList]
      exact ⟨fun ⟨unparted, unended, unbroken, unblank, steady, unescaped⟩ =>
          ⟨unparted, unended, unbroken, unblank, steady, unescaped⟩,
        fun ⟨unparted, unended, unbroken, unblank, steady, unescaped⟩ =>
          ⟨unparted, unended, unbroken, unblank, steady, unescaped⟩⟩)

/-- The part of a path that a text makes up when it is written at the end. -/
def pathPart (text : List Char) : List Char :=
  (kept text).takeWhile fun char => !endsPath char

/-- What follows the path when a text is written at its end. -/
def afterPath (text : List Char) : List Char :=
  (kept text).dropWhile fun char => !endsPath char

variable {name : String} {last : List Char}

/-! ### Writing segments -/

theorem IsSegment.kept_eq (segment : IsSegment name) : kept name.toList = name.toList := by
  have ends : name.toList.rdropWhile isBlank = name.toList := by
    rw [List.rdropWhile_eq_self_iff]
    intro some
    rw [segment.unblank _ (List.getLast?_eq_some_getLast some)]
    decide
  rw [kept, ends, List.filter_eq_self]
  intro char member
  rw [segment.unbroken char member]
  rfl

/-- **A segment is read as it is written.** -/
theorem IsSegment.pathPart_eq (segment : IsSegment name) : pathPart name.toList = name.toList := by
  rw [pathPart, segment.kept_eq, List.takeWhile_eq_self_iff]
  intro char member
  rw [segment.unended char member]
  rfl

theorem IsSegment.afterPath_eq (segment : IsSegment name) : afterPath name.toList = [] := by
  rw [afterPath, segment.kept_eq, List.dropWhile_eq_nil_iff]
  intro char member
  rw [segment.unended char member]
  rfl

/-- What is escaped of a segment is opened to it again. -/
theorem IsSegment.opened_path (segment : IsSegment name) :
    Escape.opened (Utf8.encode (String.ofList (Escape.path name.toList))) = Utf8.encode name := by
  rw [Escape.opened_path, String.ofList_toList]
  exact (Escape.opened_eq_self_iff _).mpr segment.unescaped

/-! ### Reading segments -/

/-- A part of a text that is opened to all of the text is all of it. -/
theorem eq_of_opened (part : last.Sublist name.toList)
    (opened : Escape.opened (Utf8.encode (String.ofList last)) = Utf8.encode name) :
    last = name.toList := by
  have bytes : (Utf8.encode (String.ofList last)).Sublist
      (Utf8.encode (String.ofList name.toList)) := by
    rw [Utf8.encode_ofList, Utf8.encode_ofList]
    exact part.flatMap _
  have long : (Utf8.encode (String.ofList name.toList)).length ≤
      (Utf8.encode (String.ofList last)).length := by
    rw [String.ofList_toList, ← opened]
    exact Escape.length_opened_le _
  exact String.ofList_injective (Utf8.encode_inj (bytes.eq_of_length_le long))

theorem kept_sublist (text : List Char) : (kept text).Sublist text :=
  List.filter_sublist.trans (List.rdropWhile_prefix isBlank text).sublist

theorem isSegment_empty : IsSegment "" := by
  decide

/-- **What comes back as it was written is a segment.** -/
theorem isSegment_of_opened
    (found : (segmentsOf (pathPart name.toList)).getLast? = some last)
    (opened : Escape.opened (Utf8.encode (String.ofList
      (if isUp last || isHere last then [] else Escape.path last))) = Utf8.encode name) :
    IsSegment name := by
  obtain ⟨_, found', ends, unparted⟩ := getLast?_segmentsOf (pathPart name.toList)
  cases found.symm.trans found'
  have front : pathPart name.toList <+: kept name.toList := List.takeWhile_prefix _
  by_cases steps : (isUp last || isHere last) = true
  · -- A step leaves nothing, which is what was written only if nothing was.
    rw [if_pos steps] at opened
    have empty : "" = name := Utf8.encode_inj opened
    rw [← empty]
    exact isSegment_empty
  · rw [if_neg steps, Escape.opened_path] at opened
    have whole : last = name.toList :=
      eq_of_opened (ends.sublist.trans (front.sublist.trans (kept_sublist _))) opened
    subst whole
    have kept : kept name.toList = name.toList :=
      (kept_sublist _).antisymm (ends.sublist.trans front.sublist)
    have path : pathPart name.toList = name.toList :=
      (front.sublist.trans (kept_sublist _)).antisymm ends.sublist
    refine ⟨unparted, ?_, ?_, ?_, Bool.eq_false_iff.mpr steps, ?_⟩
    · intro char member
      rw [← path] at member
      simpa using List.mem_takeWhile_imp member
    · intro char member
      rw [← kept] at member
      simpa using (List.mem_filter.mp member).2
    · have filtered : (Url.kept name.toList).Sublist (name.toList.rdropWhile isBlank) :=
        List.filter_sublist
      rw [kept] at filtered
      have ends : name.toList.rdropWhile isBlank = name.toList :=
        (List.rdropWhile_prefix isBlank _).sublist.antisymm filtered
      intro char found
      obtain ⟨some, rfl⟩ := List.mem_getLast?_eq_getLast found
      exact Bool.eq_false_iff.mpr (List.rdropWhile_eq_self_iff.mp ends some)
    · rw [String.ofList_toList] at opened
      exact (Escape.opened_eq_self_iff _).mp opened

end Url

end SignedPurchase
