import Mathlib.Data.List.DropRight
import SignedPurchase.Proofs.Text.Utf8
import SignedPurchase.Proofs.Token.Segments

/-
**Where a token is cut.**

Whether a text is a token is a matter of its dots alone, whatever else stands in it: there is one
segment more than there are dots. What the signature covers is then cut out of the text at an offset in
bytes. The last dot stands there, so the cut is never beyond the end or inside a character, and what is
covered are the very segments that are decoded.

* `CompactToken.exists_parse_iff` and `CompactToken.parse_eq_error_iff` tell by the dots which texts
  are tokens, and what is reported of the others;
* `CompactToken.front_eq_signingInput` cuts the text that was split, `CompactToken.beforeLastDot_text`
  says where;
* `CompactToken.signingInput_inj`: what is covered has one header and one payload;
* `CompactToken.segments_exact` puts them together.
-/

namespace SignedPurchase

namespace CompactToken

variable {text : String} {token other : CompactToken}

/-! ### Dots -/

/-- There is one segment more than there are dots. -/
theorem length_segments (text : List Char) : (segments text).length = text.count '.' + 1 := by
  induction text with
  | nil => rfl
  | cons char rest ih =>
    rw [segments]
    by_cases dot : char = '.'
    · rw [if_pos dot, dot, List.count_cons_self, List.length_cons, ih]
    · rw [if_neg dot, List.count_cons_of_ne dot, ← ih]
      cases split : segments rest with
      | nil => exact absurd (split ▸ ih) (Nat.succ_ne_zero _).symm
      | cons first others => rfl

/-- **A text is a token exactly when there are two dots in it.** -/
theorem exists_parse_iff : (∃ token, parse text = .ok token) ↔ text.toList.count '.' = 2 := by
  have size := length_segments text.toList
  refine ⟨?_, fun two => ?_⟩
  · rintro ⟨token, parsed⟩
    rw [segments_eq_splitOn, parse_eq_ok_iff_splitOn.mp parsed] at size
    exact (Nat.succ.inj size).symm
  · rw [two] at size
    obtain ⟨header, payload, signature, split⟩ := List.length_eq_three.mp size
    exact ⟨⟨header, payload, signature⟩, by rw [parse, split]⟩

/-- Of any other text the number of its segments is reported. -/
theorem parse_of_count_ne (other : text.toList.count '.' ≠ 2) :
    parse text = .error (.malformedToken (text.toList.count '.' + 1)) := by
  have size := length_segments text.toList
  rw [parse]
  split
  · rename_i split
    rw [split] at size
    exact absurd (Nat.succ.inj size).symm other
  · rw [size]

theorem parse_eq_error_iff {failure : Failure} :
    parse text = .error failure ↔ text.toList.count '.' ≠ 2 ∧
      failure = .malformedToken (text.toList.count '.' + 1) := by
  by_cases two : text.toList.count '.' = 2
  · obtain ⟨token, parsed⟩ := exists_parse_iff.mpr two
    simp only [parsed, two, reduceCtorEq, ne_eq, not_true_eq_false, false_and]
  · rw [parse_of_count_ne two, Except.error.injEq, eq_comm, and_iff_right two]

/-! ### What is covered -/

/-- What stands before the last dot of a text. -/
def beforeLastDot (text : String) : String :=
  String.ofList (text.toList.rdropWhile (· ≠ '.')).dropLast

theorem beforeLastDot_append (front : List Char) {last : List Char} (undotted : '.' ∉ last) :
    beforeLastDot (String.ofList (front ++ '.' :: last)) = String.ofList front := by
  have others : ∀ char ∈ last.reverse, decide (char ≠ '.') = true := by
    intro char member
    exact decide_eq_true fun dot => undotted (dot ▸ List.mem_reverse.mp member)
  have dropped : (front ++ '.' :: last).rdropWhile (· ≠ '.') = front ++ ['.'] := by
    rw [List.rdropWhile, List.reverse_append, List.reverse_cons, List.append_assoc,
      List.dropWhile_append_of_pos others, List.singleton_append, List.dropWhile_cons_of_neg (by simp),
      List.reverse_cons, List.reverse_reverse]
  rw [beforeLastDot, String.toList_ofList, dropped, List.dropLast_concat]

theorem beforeLastDot_text (undotted : '.' ∉ token.signature) :
    beforeLastDot token.text = token.signingInput := by
  rw [text_eq_append, ← String.ofList_append, beforeLastDot_append _ undotted, signingInput_eq]

/-- Something is left of a text after what is covered. -/
theorem signedSize_lt (token : CompactToken) : token.signedSize < token.text.utf8ByteSize := by
  have dot : ".".utf8ByteSize = 1 := rfl
  rw [text_eq_append, ofList_dotted, String.utf8ByteSize_append, String.utf8ByteSize_append,
    utf8ByteSize_signed, dot]
  omega

/-- **Two tokens have the same text signed exactly when they have the same header and the same
payload.** -/
theorem signingInput_inj (header : '.' ∉ token.header) (payload : '.' ∉ token.payload) :
    token.signingInput = other.signingInput ↔
      token.header = other.header ∧ token.payload = other.payload := by
  rw [signingInput_eq, signingInput_eq, String.ofList_inj,
    List.append_cons_inj_of_notMem header payload]
  exact and_congr_right fun _ => and_iff_right rfl

/-! ### Texts that are split and cut -/

theorem intercalate_segments (token : CompactToken) :
    ".".intercalate ([token.header, token.payload, token.signature].map String.ofList) =
      token.text := by
  have joined : ".".intercalate ([token.header, token.payload, token.signature].map String.ofList) =
      String.ofList token.header ++ "." ++ String.ofList token.payload ++ "." ++
        String.ofList token.signature := rfl
  rw [joined, text_eq_append, String.ofList_append, ofList_dotted, ofList_dotted]
  simp only [String.append_assoc]

/-- The offset of the cut is between two characters of the text that was split. -/
theorem front_eq_signingInput (parsed : parse text = .ok token) :
    ∃ between : String.Pos.Raw.IsValid text ⟨token.signedSize⟩,
      Utf8.front text token.signedSize between = token.signingInput := by
  obtain ⟨rfl, _⟩ := parse_eq_ok_iff.mp parsed
  exact ⟨_, rfl⟩

/-- **Texts are split and cut exactly**, whatever characters are in them. A text is a token exactly when
there are two dots in it, and the number of its segments is reported of any other. The segments of a
token have no dots and are joined to its text again. What is signed is cut out of that text within its
bounds and between two characters: it is the first bytes of the text, as many as the header, a dot and
the payload have, it is what stands before the last dot, and with a dot and the signature it is the
whole text. It tells the header and the payload of a token. -/
theorem segments_exact :
    (∀ text : String,
      ((∃ token, parse text = .ok token) ↔ text.toList.count '.' = 2) ∧
      (∀ failure, parse text = .error failure ↔ text.toList.count '.' ≠ 2 ∧
        failure = .malformedToken (text.toList.count '.' + 1))) ∧
    (∀ text token, parse text = .ok token →
      ('.' ∉ token.header ∧ '.' ∉ token.payload ∧ '.' ∉ token.signature) ∧
      ".".intercalate ([token.header, token.payload, token.signature].map String.ofList) = text ∧
      token.signedSize < text.utf8ByteSize ∧
      (∃ between : String.Pos.Raw.IsValid text ⟨token.signedSize⟩,
        Utf8.front text token.signedSize between = token.signingInput) ∧
      Utf8.encode token.signingInput = (Utf8.encode text).take token.signedSize ∧
      token.signingInput = beforeLastDot text ∧
      token.signingInput ++ "." ++ String.ofList token.signature = text) ∧
    (∀ text text' token token', parse text = .ok token → parse text' = .ok token' →
      (token.signingInput = token'.signingInput ↔
        token.header = token'.header ∧ token.payload = token'.payload)) := by
  refine ⟨fun text => ⟨exists_parse_iff, fun failure => parse_eq_error_iff⟩,
    fun text token parsed => ?_, fun text text' token token' parsed parsed' => ?_⟩
  · obtain ⟨between, cut⟩ := front_eq_signingInput parsed
    have bytes : Utf8.encode token.signingInput = (Utf8.encode text).take token.signedSize := by
      rw [← cut, Utf8.encode_front]
    obtain ⟨rfl, undotted⟩ := parse_eq_ok_iff.mp parsed
    exact ⟨undotted, token.intercalate_segments, token.signedSize_lt, ⟨between, cut⟩, bytes,
      (beforeLastDot_text undotted.2.2).symm, token.text_eq_signingInput.symm⟩
  · obtain ⟨_, header, payload, _⟩ := parse_eq_ok_iff.mp parsed
    exact signingInput_inj header payload

end CompactToken

namespace Specimen

open CompactToken

/-- **Characters of two and of three bytes, and an empty signature**, which covers six bytes. The same
text with a signature has the same text signed; without its last dot it has two segments. -/
theorem accented_split :
    parse "é.€." = .ok ⟨['é'], ['€'], []⟩ ∧ parse "é.€.x" = .ok ⟨['é'], ['€'], ['x']⟩ ∧
    parse "é.€" = .error (.malformedToken 2) ∧
    (∃ between : String.Pos.Raw.IsValid "é.€." ⟨6⟩,
      Utf8.front "é.€." 6 between = signingInput ⟨['é'], ['€'], []⟩) ∧
    signingInput ⟨['é'], ['€'], []⟩ = beforeLastDot "é.€." ∧
    signingInput ⟨['é'], ['€'], []⟩ = signingInput ⟨['é'], ['€'], ['x']⟩ := by
  obtain ⟨single, cut, alike⟩ := segments_exact
  have parsed : parse "é.€." = .ok ⟨['é'], ['€'], []⟩ := by decide
  have parsed' : parse "é.€.x" = .ok ⟨['é'], ['€'], ['x']⟩ := by decide
  obtain ⟨_, _, _, between, _, before, _⟩ := cut _ _ parsed
  exact ⟨parsed, parsed', ((single "é.€").2 _).mpr ⟨by decide, by decide⟩, between, before,
    (alike _ _ _ _ parsed parsed').mpr ⟨rfl, rfl⟩⟩

end Specimen

end SignedPurchase
