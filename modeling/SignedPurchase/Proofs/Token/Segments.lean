import SignedPurchase.Text.Utf8
import SignedPurchase.Token.Compact

/-
**The segments of a compact token.**

A text is split exactly where the library splits a list at an element, so splitting and joining undo
each other.

* `CompactToken.segments_eq_splitOn` is the link to the library;
* `CompactToken.parse_eq_ok_iff`: a text is a token exactly when it is three segments without dots,
  joined by dots;
* `CompactToken.signingInput_eq`: what is signed is the header, a dot and the payload;
* `CompactToken.text_eq_signingInput`: what is signed stands before the last dot, and
  `CompactToken.encode_text` says so of the bytes;
* `CompactToken.parse_text_symbols`: segments that were written in base64 are read back as they are.
-/

namespace SignedPurchase

namespace CompactToken

/-! ### Splitting -/

/-- The segments of a text are what is left of it between its dots. -/
theorem segments_eq_splitOn (text : List Char) : segments text = text.splitOn '.' := by
  induction text with
  | nil => rfl
  | cons char rest ih =>
    rw [List.splitOn_cons_eq_if_modifyHead, segments, ih]
    by_cases dot : char = '.'
    · rw [if_pos dot, if_pos (beq_iff_eq.mpr dot)]
    · rw [if_neg dot, if_neg (fun same => dot (beq_iff_eq.mp same))]
      cases split : rest.splitOn '.' with
      | nil => exact absurd split (List.splitOn_ne_nil '.' rest)
      | cons first others => rfl

/-- No segment holds a dot. -/
theorem undotted_of_mem_segments {text segment : List Char} (member : segment ∈ segments text) :
    '.' ∉ segment := by
  induction text generalizing segment with
  | nil =>
    rw [segments, List.mem_singleton] at member
    rw [member]
    exact List.not_mem_nil
  | cons char rest ih =>
    rw [segments] at member
    by_cases dot : char = '.'
    · rw [if_pos dot] at member
      rcases List.mem_cons.mp member with rfl | later
      · exact List.not_mem_nil
      · exact ih later
    · rw [if_neg dot] at member
      have fresh : ∀ {piece : List Char}, '.' ∉ piece → '.' ∉ char :: piece := by
        intro piece undotted
        rw [List.mem_cons, not_or]
        exact ⟨fun same => dot same.symm, undotted⟩
      cases split : segments rest with
      | nil =>
        rw [split] at member
        rw [List.mem_singleton.mp member]
        exact fresh List.not_mem_nil
      | cons first others =>
        rw [split] at member ih
        rcases List.mem_cons.mp member with rfl | later
        · exact fresh (ih List.mem_cons_self)
        · exact ih (List.mem_cons_of_mem _ later)

/-! ### Tokens -/

/-- **The texts that are tokens**: three segments without dots, joined by dots. -/
theorem parse_eq_ok_iff {text : String} {token : CompactToken} :
    parse text = .ok token ↔
      text = token.text ∧ '.' ∉ token.header ∧ '.' ∉ token.payload ∧ '.' ∉ token.signature := by
  refine ⟨?_, ?_⟩
  · intro parsed
    unfold parse at parsed
    split at parsed
    · rename_i header payload signature split
      cases parsed
      have undotted : ∀ segment ∈ [header, payload, signature], '.' ∉ segment := by
        intro segment member
        rw [← split] at member
        exact undotted_of_mem_segments member
      have joined : header ++ '.' :: (payload ++ '.' :: signature) = text.toList := by
        have whole : ['.'].intercalate (text.toList.splitOn '.') = text.toList :=
          List.intercalate_splitOn '.'
        rw [← segments_eq_splitOn, split] at whole
        rw [← whole]
        simp only [List.intercalate_cons_cons, List.intercalate_singleton, List.append_assoc,
          List.singleton_append]
      refine ⟨?_, undotted header (by simp), undotted payload (by simp),
        undotted signature (by simp)⟩
      rw [CompactToken.text, joined, String.ofList_toList]
    · cases parsed
  · rintro ⟨whole, headerPlain, payloadPlain, signaturePlain⟩
    rw [whole, parse, CompactToken.text, String.toList_ofList, segments_eq_splitOn,
      List.splitOn_append_cons_self_of_not_mem headerPlain,
      List.splitOn_append_cons_self_of_not_mem payloadPlain,
      List.splitOn_eq_singleton signaturePlain]

/-- A text is a token exactly when splitting it at its dots gives the three segments. -/
theorem parse_eq_ok_iff_splitOn {text : String} {token : CompactToken} :
    parse text = .ok token ↔
      text.toList.splitOn '.' = [token.header, token.payload, token.signature] := by
  rw [parse, segments_eq_splitOn]
  refine ⟨?_, ?_⟩
  · intro parsed
    split at parsed
    · rename_i split
      cases parsed
      exact split
    · cases parsed
  · intro split
    rw [split]

/-- What is signed is the header, a dot and the payload. -/
theorem signingInput_eq (token : CompactToken) :
    token.signingInput = String.ofList (token.header ++ '.' :: token.payload) :=
  Utf8.front_of_append token.text_eq_append token.utf8ByteSize_signed _

/-- What is signed, a dot and the signature are all of a text. -/
theorem text_eq_signingInput (token : CompactToken) :
    token.text = token.signingInput ++ "." ++ String.ofList token.signature := by
  rw [text_eq_append, signingInput_eq, ofList_dotted, String.append_assoc]

/-- The same of their bytes. -/
theorem encode_text (token : CompactToken) :
    Utf8.encode token.text =
      Utf8.encode token.signingInput ++ 0x2E :: Utf8.encode (String.ofList token.signature) := by
  have dot : Utf8.encode "." = [0x2E] := by decide
  rw [text_eq_signingInput, Utf8.encode_append, Utf8.encode_append, dot, List.append_assoc,
    List.singleton_append]

/-! ### Written segments -/

/-- There is no dot among the characters of an alphabet for addresses. -/
theorem undotted_symbols (bytes : Bytes) : '.' ∉ Base64.symbols .urlSafe bytes := by
  have plain : ∀ value, Base64.Alphabet.urlSafe.char value ≠ '.' := by
    intro value
    by_cases small : value < 62
    · have each : ∀ value < 62, Base64.Alphabet.urlSafe.char value ≠ '.' := by decide
      exact each value small
    · unfold Base64.Alphabet.char
      rw [if_neg (by omega), if_neg (by omega), if_neg small]
      split
      · decide
      · decide
  intro member
  obtain ⟨value, _, same⟩ := List.mem_map.mp member
  exact plain value same

/-- **Segments that were written in base64 are the segments of their text.** -/
theorem parse_text_symbols (header payload signature : Bytes) :
    parse (CompactToken.text ⟨Base64.symbols .urlSafe header, Base64.symbols .urlSafe payload,
        Base64.symbols .urlSafe signature⟩) =
      .ok ⟨Base64.symbols .urlSafe header, Base64.symbols .urlSafe payload,
        Base64.symbols .urlSafe signature⟩ :=
  parse_eq_ok_iff.mpr
    ⟨rfl, undotted_symbols header, undotted_symbols payload, undotted_symbols signature⟩

end CompactToken

end SignedPurchase
