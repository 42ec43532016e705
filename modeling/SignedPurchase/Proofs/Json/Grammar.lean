import SignedPurchase.Json.Draft
import SignedPurchase.Proofs.Json.Cutting

/-
**Well-formed texts.**

A text is well formed when it is written with the lexemes of a value that has no gaps, with blanks
anywhere between them. How it is read does not depend on what the value is for: the draft of the text is
that value.

* `Draft.isWhole` says that nothing is missing from a draft, `Draft.lexemes` how it is written;
* `Draft.IsText` are the well-formed texts of a draft;
* `Document.read_of_isText`: from such a text that draft is read, and nothing is left over.
-/

namespace SignedPurchase

namespace Json

namespace Draft

/-! ### Whole drafts and their lexemes -/

mutual

/-- Whether nothing is missing from a draft. -/
def isWhole : Draft → Bool
  | .list items closed => closed && itemsWhole items
  | .object members closed => closed && membersWhole members
  | .broken => false
  | _ => true

/-- Whether nothing is missing from the items of a list. -/
def itemsWhole : List Draft → Bool
  | [] => true
  | item :: rest => isWhole item && itemsWhole rest

/-- Whether nothing is missing from members, whose names are texts. -/
def membersWhole : List (Draft × Draft) → Bool
  | [] => true
  | (.text _, value) :: rest => isWhole value && membersWhole rest
  | _ => false

end

mutual

/-- The lexemes with which a draft is written. -/
def lexemes : Draft → List Lexeme
  | .null => [.null]
  | .flag value => [.flag value]
  | .number value => [.number value]
  | .text value => [.text value]
  | .list [] _ => [.openList, .closeList]
  | .list (item :: rest) _ => .openList :: (lexemes item ++ itemLexemes rest)
  | .object [] _ => [.openObject, .closeObject]
  | .object ((name, value) :: rest) _ =>
    .openObject :: (lexemes name ++ .colon :: (lexemes value ++ memberLexemes rest))
  | .broken => [.stray]

/-- The lexemes of the items after the first, and of the closing bracket. -/
def itemLexemes : List Draft → List Lexeme
  | [] => [.closeList]
  | item :: rest => .comma :: (lexemes item ++ itemLexemes rest)

/-- The lexemes of the members after the first, and of the closing brace. -/
def memberLexemes : List (Draft × Draft) → List Lexeme
  | [] => [.closeObject]
  | (name, value) :: rest =>
    .comma :: (lexemes name ++ .colon :: (lexemes value ++ memberLexemes rest))

end

mutual

/-- Where nothing is missing, nothing is wrong. -/
theorem isSound_of_isWhole : (draft : Draft) → draft.isWhole = true → draft.isSound = true
  | .null, _ => rfl
  | .flag _, _ => rfl
  | .number _, _ => rfl
  | .text _, _ => rfl
  | .list items closed, whole => by
    rw [isWhole, Bool.and_eq_true] at whole
    rw [isSound, whole.1, itemsSound_of_itemsWhole items whole.2]
    rfl
  | .object members closed, whole => by
    rw [isWhole, Bool.and_eq_true] at whole
    rw [isSound, whole.1, membersSound_of_membersWhole members whole.2]
    rfl

theorem itemsSound_of_itemsWhole :
    (items : List Draft) → itemsWhole items = true → itemsSound items = true
  | [], _ => rfl
  | item :: rest, whole => by
    rw [itemsWhole, Bool.and_eq_true] at whole
    rw [itemsSound, isSound_of_isWhole item whole.1, itemsSound_of_itemsWhole rest whole.2]
    rfl

theorem membersSound_of_membersWhole :
    (members : List (Draft × Draft)) → membersWhole members = true → membersSound members = true
  | [], _ => rfl
  | (.text _, value) :: rest, whole => by
    rw [membersWhole, Bool.and_eq_true] at whole
    rw [membersSound, isSound_of_isWhole value whole.1, membersSound_of_membersWhole rest whole.2]
    rfl

end

/-! ### Lexemes and drafts -/

/-- A list that is not closed at once goes on with its first item. -/
theorem readValue_openList {lexemes : List Lexeme} {frames : List Frame}
    (opens : lexemes.head? ≠ some .closeList) :
    readValue (.openList :: lexemes) frames = readValue lexemes (.list [] :: frames) := by
  rw [readValue]
  rintro rest rfl
  exact opens rfl

theorem readAfter_comma {lexemes : List Lexeme} {frames : List Frame} {before : List Draft}
    {value : Draft} (opens : lexemes.head? ≠ some .closeList) :
    readAfter (.comma :: lexemes) (.list before :: frames) value =
      readValue lexemes (.list (value :: before) :: frames) := by
  rw [readAfter]
  rintro rest rfl
  exact opens rfl

/-- No value begins with the end of a list. -/
theorem head?_lexemes_append (draft : Draft) (rest : List Lexeme) :
    (draft.lexemes ++ rest).head? ≠ some .closeList := by
  cases draft with
  | list items =>
    cases items <;> simp [lexemes]
  | object members =>
    cases members <;> simp [lexemes]
  | _ => simp [lexemes]

mutual

/-- **The lexemes of a whole draft are read as the draft**, whatever may come after them. -/
theorem readValue_lexemes : (draft : Draft) → draft.isWhole = true → (rest : List Lexeme) →
    (frames : List Frame) →
    readValue (draft.lexemes ++ rest) frames = readAfter rest frames draft
  | .null, _, _, _ => by
    rw [lexemes, List.singleton_append, readValue]
  | .flag _, _, _, _ => by
    rw [lexemes, List.singleton_append, readValue]
  | .number _, _, _, _ => by
    rw [lexemes, List.singleton_append, readValue]
  | .text _, _, _, _ => by
    rw [lexemes, List.singleton_append, readValue]
  | .list [] closed, whole, _, _ => by
    rw [isWhole, Bool.and_eq_true] at whole
    rw [lexemes, List.cons_append, List.singleton_append, readValue, whole.1]
  | .list (item :: later) closed, whole, rest, frames => by
    rw [isWhole, itemsWhole, Bool.and_eq_true, Bool.and_eq_true] at whole
    obtain ⟨rfl, first, others⟩ := whole
    rw [lexemes, List.cons_append, List.append_assoc, readValue_openList (head?_lexemes_append item _),
      readValue_lexemes item first, readAfter_itemLexemes later others]
    rfl
  | .object [] closed, whole, _, _ => by
    rw [isWhole, Bool.and_eq_true] at whole
    rw [lexemes, List.cons_append, List.singleton_append, readValue, whole.1]
  | .object ((.text name, value) :: later) closed, whole, rest, frames => by
    rw [isWhole, membersWhole, Bool.and_eq_true, Bool.and_eq_true] at whole
    obtain ⟨rfl, first, others⟩ := whole
    rw [lexemes, lexemes]
    simp only [List.cons_append, List.nil_append, List.append_assoc]
    rw [readValue, readName, readValue_lexemes value first, readAfter_memberLexemes later others]
    · rfl
    · intro _ same
      cases same

theorem readAfter_itemLexemes : (items : List Draft) → itemsWhole items = true →
    (rest : List Lexeme) → (frames : List Frame) → (before : List Draft) → (value : Draft) →
    readAfter (itemLexemes items ++ rest) (.list before :: frames) value =
      readAfter rest frames (.list ((value :: before).reverse ++ items) true)
  | [], _, _, _, _, _ => by
    rw [itemLexemes, List.singleton_append, List.append_nil, readAfter]
  | item :: later, whole, rest, frames, before, value => by
    rw [itemsWhole, Bool.and_eq_true] at whole
    rw [itemLexemes, List.cons_append, List.append_assoc,
      readAfter_comma (head?_lexemes_append item _), readValue_lexemes item whole.1,
      readAfter_itemLexemes later whole.2, List.reverse_cons, List.append_assoc]
    rfl

theorem readAfter_memberLexemes : (members : List (Draft × Draft)) → membersWhole members = true →
    (rest : List Lexeme) → (frames : List Frame) → (before : List (Draft × Draft)) →
    (name value : Draft) →
    readAfter (memberLexemes members ++ rest) (.object before name :: frames) value =
      readAfter rest frames (.object (((name, value) :: before).reverse ++ members) true)
  | [], _, _, _, _, _, _ => by
    rw [memberLexemes, List.singleton_append, List.append_nil, readAfter]
  | (.text own, draft) :: later, whole, rest, frames, before, name, value => by
    rw [membersWhole, Bool.and_eq_true] at whole
    rw [memberLexemes, lexemes]
    simp only [List.cons_append, List.nil_append, List.append_assoc]
    rw [readAfter, readName, readValue_lexemes draft whole.1, readAfter_memberLexemes later whole.2,
      List.reverse_cons, List.append_assoc]
    rfl

end

/-! ### Texts of drafts -/

/-- The well-formed texts of a draft: its lexemes, with blanks between them. -/
structure IsText (draft : Draft) (bytes : Bytes) : Prop where
  whole : draft.isWhole = true
  cut : Lexeme.Cut draft.lexemes bytes

end Draft

/-- **From a well-formed text its draft is read**, and nothing follows. -/
theorem Document.read_of_isText {draft : Draft} {bytes : Bytes} (text : draft.IsText bytes) :
    Document.read bytes = ⟨draft, true⟩ := by
  have read := Draft.readValue_lexemes draft text.whole [] []
  rw [List.append_nil] at read
  rw [Document.read, Lexeme.scan_of_cut text.cut, read, Draft.readAfter]
  rfl

end Json

end SignedPurchase
