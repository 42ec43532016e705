import SignedPurchase.Proofs.Json.Lexemes

/-
**Where one lexeme ends and the next begins.**

A text may have any blanks between its lexemes, and a lexeme is the same wherever it stands: only a
number has to end before something that does not go on with it.

* `Lexeme.IsLocal` says of a way of cutting that it does not look beyond the lexeme, and `isLocal_next?`
  is that for the way in use;
* `Lexeme.IsLiteral` are the bytes of a lexeme that stands alone, `Lexeme.Cut` the lexemes of a text
  with blanks between them;
* `Lexeme.scan_of_cut`: whatever stands around a lexeme, it is the one that is found.
-/

namespace SignedPurchase

namespace Json

variable {rest : Bytes}

/-! ### Numbers -/

/-- Digits are read up to what does not go on with them. -/
theorem digits_append_of_severs (severs : Severs rest) (bytes : Bytes) :
    digits (bytes ++ rest) = ((digits bytes).1, (digits bytes).2 ++ rest) := by
  induction bytes with
  | nil => exact severs.unsigned_parts.1
  | cons byte tail ih =>
    rw [List.cons_append, digits, digits]
    cases digit? byte with
    | none => rfl
    | some value => rw [ih]

theorem someDigits?_append {bytes after : Bytes} {values : List Nat} (severs : Severs rest)
    (found : someDigits? bytes = some (values, after)) :
    someDigits? (bytes ++ rest) = some (values, after ++ rest) := by
  unfold someDigits? at found ⊢
  rw [digits_append_of_severs severs]
  generalize digits bytes = run at found ⊢
  obtain ⟨_ | ⟨first, later⟩, left⟩ := run
  · cases found
  · cases found
    rfl

theorem whole?_append {bytes after : Bytes} {values : List Nat} (severs : Severs rest)
    (found : whole? bytes = some (values, after)) :
    whole? (bytes ++ rest) = some (values, after ++ rest) := by
  unfold whole? at found ⊢
  rw [digits_append_of_severs severs]
  generalize digits bytes = run at found ⊢
  obtain ⟨_ | ⟨_ | first, _ | ⟨second, later⟩⟩, left⟩ := run
  all_goals cases found
  all_goals rfl

/-- After a point there are digits. -/
theorem decimals?_point (tail : Bytes) :
    decimals? (0x2E :: tail) = (someDigits? tail).map fun found => (some found.1, found.2) := by
  rw [decimals?]
  cases someDigits? tail <;> rfl

theorem decimals?_append {bytes after : Bytes} {values : Option (List Nat)} (severs : Severs rest)
    (found : decimals? bytes = some (values, after)) :
    decimals? (bytes ++ rest) = some (values, after ++ rest) := by
  cases bytes with
  | nil =>
    cases found
    exact severs.unsigned_parts.2.1
  | cons byte tail =>
    rw [List.cons_append]
    by_cases point : byte = 0x2E
    · subst point
      rw [decimals?_point] at found ⊢
      obtain ⟨run, read, same⟩ := Option.map_eq_some_iff.mp found
      cases same
      rw [someDigits?_append severs read]
      rfl
    · rw [decimals?_of_ne point] at found ⊢
      cases found
      rfl

theorem exponentSign_append {bytes : Bytes} (present : bytes ≠ []) (rest : Bytes) :
    exponentSign (bytes ++ rest) = ((exponentSign bytes).1, (exponentSign bytes).2 ++ rest) := by
  cases bytes with
  | nil => exact absurd rfl present
  | cons byte tail =>
    by_cases minus : byte = 0x2D
    · subst minus
      rfl
    · by_cases plus : byte = 0x2B
      · subst plus
        rfl
      · have plain : ∀ tail, exponentSign (byte :: tail) = (false, byte :: tail) := by
          intro tail
          rw [exponentSign]
          · rintro rest same
            cases same
            exact minus rfl
          · rintro rest same
            cases same
            exact plus rfl
        rw [List.cons_append, plain, plain]
        rfl

theorem exponent?_append {bytes after : Bytes} {value : Option (Bool × List Nat)}
    (severs : Severs rest) (found : exponent? bytes = some (value, after)) :
    exponent? (bytes ++ rest) = some (value, after ++ rest) := by
  cases bytes with
  | nil =>
    cases found
    exact severs.unsigned_parts.2.2
  | cons byte tail =>
    rw [List.cons_append, exponent?]
    rw [exponent?] at found
    split at found
    · rename_i marked
      rw [if_pos marked]
      have present : tail ≠ [] := by
        rintro rfl
        cases found
      rw [exponentSign_append present]
      dsimp only at found ⊢
      cases run : someDigits? (exponentSign tail).2 with
      | none =>
        rw [run] at found
        cases found
      | some run' =>
        rw [run] at found
        cases found
        rw [someDigits?_append severs run]
    · rename_i unmarked
      cases found
      rw [if_neg unmarked]
      rfl

/-- **A numeral ends where nothing goes on with it.** -/
theorem unsigned?_append {negative : Bool} {bytes after : Bytes} {numeral : Numeral}
    (severs : Severs rest) (found : unsigned? negative bytes = some (numeral, after)) :
    unsigned? negative (bytes ++ rest) = some (numeral, after ++ rest) := by
  unfold unsigned? at found ⊢
  split at found
  · cases found
  · rename_i whole
    rw [whole?_append severs whole]
    split at found
    · cases found
    · rename_i decimals
      dsimp only
      rw [decimals?_append severs decimals]
      split at found
      · cases found
      · rename_i exponent
        cases found
        dsimp only
        rw [exponent?_append severs exponent]

/-! ### Texts -/

/-- What stands after the closing quotation mark is not looked at. -/
theorem pieces?_append {bytes after : Bytes} {pieces : List Piece} (rest : Bytes)
    (found : pieces? bytes = some (pieces, after)) :
    pieces? (bytes ++ rest) = some (pieces, after ++ rest) := by
  fun_induction pieces? bytes generalizing pieces after with
  | case1 => cases found
  | case2 tail =>
    cases found
    rw [List.cons_append, pieces?.eq_def]
    exact if_pos rfl
  | case3 => cases found
  | case4 a b c d tail value inner left spelled stands _ ih =>
    cases found
    simp only [List.cons_append]
    rw [pieces?_of_unit stands, ih spelled]
    rfl
  | case5 => cases found
  | case6 => cases found
  | case7 letter tail named value inner left spelled stands _ ih =>
    cases found
    simp only [List.cons_append]
    rw [pieces?_of_letter named stands, ih spelled]
    rfl
  | case8 => cases found
  | case9 => cases found
  | case10 byte tail quote slash printed inner left spelled ih =>
    cases found
    rw [List.cons_append, pieces?_of_plain quote slash printed, ih spelled]
    rfl
  | case11 => cases found

/-! ### One lexeme -/

/-- What may stand after a lexeme. -/
def Lexeme.EndsBefore : Lexeme → Bytes → Prop
  | .number _, rest => Severs rest
  | _, _ => True

/-- A way of cutting off a lexeme does not look beyond what may come after the lexeme. -/
def Lexeme.IsLocal (cut : Bytes → Option (Lexeme × Bytes)) : Prop :=
  ∀ tail lexeme after rest, cut tail = some (lexeme, after) → lexeme.EndsBefore rest →
    cut (tail ++ rest) = some (lexeme, after ++ rest)

namespace Lexeme

theorem IsLocal.ite {condition : Prop} [Decidable condition]
    {first second : Bytes → Option (Lexeme × Bytes)} (here : IsLocal first) (there : IsLocal second) :
    IsLocal fun rest => if condition then first rest else second rest := by
  by_cases holds : condition
  · simpa only [if_pos holds] using here
  · simpa only [if_neg holds] using there

theorem isLocal_mark (lexeme : Lexeme) : IsLocal fun rest => some (lexeme, rest) := by
  intro tail lexeme after rest found _
  cases found
  rfl

/-- **The lexeme that is cut off is the same whatever stands after it.** -/
theorem isLocal_next? (byte : UInt8) : IsLocal (next? byte) := by
  unfold next?
  refine .ite (isLocal_mark _) <| .ite (isLocal_mark _) <| .ite (isLocal_mark _) <|
    .ite (isLocal_mark _) <| .ite (isLocal_mark _) <| .ite (isLocal_mark _) <|
    .ite ?text <| .ite ?null <| .ite ?yes <| .ite ?no ?number
  case text =>
    intro tail lexeme after rest found _
    dsimp only at found ⊢
    split at found
    · rename_i pieces left spelled
      cases found
      rw [pieces?_append rest spelled]
    · cases found
  case null | yes | no =>
    intro tail lexeme after rest found _
    dsimp only at found ⊢
    split at found
    · cases found
      rfl
    · cases found
  case number =>
    intro tail lexeme after rest found ends
    dsimp only at found ⊢
    split at found
    · rename_i numeral left read
      cases found
      split at read
      · rename_i minus
        rw [if_pos minus, unsigned?_append ends read]
      · rename_i minus
        rw [if_neg minus, ← List.cons_append, unsigned?_append ends read]
    · cases found

/-! ### All lexemes of a text -/

/-- The bytes of a lexeme that stands alone. -/
def IsLiteral (lexeme : Lexeme) (literal : Bytes) : Prop :=
  ∃ byte tail, literal = byte :: tail ∧ isBlank byte = false ∧ next? byte tail = some (lexeme, [])

/-- The lexemes of a text, one after the other, with blanks before, between and after them. -/
inductive Cut : List Lexeme → Bytes → Prop where
  | nil : Cut [] []
  | blank {lexemes : List Lexeme} {byte : UInt8} {rest : Bytes} (blank : isBlank byte = true)
    (later : Cut lexemes rest) : Cut lexemes (byte :: rest)
  | cons {lexeme : Lexeme} {lexemes : List Lexeme} {literal rest : Bytes}
    (here : lexeme.IsLiteral literal) (ends : lexeme.EndsBefore rest) (later : Cut lexemes rest) :
    Cut (lexeme :: lexemes) (literal ++ rest)

variable {lexeme : Lexeme} {lexemes others : List Lexeme} {bytes literal more : Bytes}

theorem endsBefore_nil (lexeme : Lexeme) : lexeme.EndsBefore [] := by
  cases lexeme with
  | number => exact nofun
  | _ => trivial

theorem EndsBefore.append (ends : lexeme.EndsBefore rest) (severs : Severs more) :
    lexeme.EndsBefore (rest ++ more) := by
  cases lexeme with
  | number =>
    cases rest with
    | nil => exact severs
    | cons byte tail => exact ends
  | _ => trivial

theorem Cut.single (here : lexeme.IsLiteral literal) : Cut [lexeme] literal := by
  have cut : Cut [lexeme] (literal ++ []) := .cons here (endsBefore_nil lexeme) .nil
  rwa [List.append_nil] at cut

/-- A mark takes one byte. -/
theorem Cut.mark {byte : UInt8} (here : lexeme.IsLiteral [byte]) (later : Cut lexemes rest)
    (ends : lexeme.EndsBefore rest) : Cut (lexeme :: lexemes) (byte :: rest) :=
  .cons here ends later

/-- **Texts are put together**, if a number at the end of the first does not go on in the second. -/
theorem Cut.append (cut : Cut lexemes bytes) (next : Cut others more) (severs : Severs more) :
    Cut (lexemes ++ others) (bytes ++ more) := by
  induction cut with
  | nil => exact next
  | blank blank _ ih => exact .blank blank ih
  | cons here ends _ ih =>
    rw [List.cons_append, List.append_assoc]
    exact .cons here (ends.append severs) ih

/-- Enough steps find every lexeme. -/
theorem Cut.scanUpTo_eq (cut : Cut lexemes bytes) {limit : Nat} (enough : bytes.length ≤ limit) :
    scanUpTo limit bytes = lexemes := by
  induction cut generalizing limit with
  | nil => cases limit <;> rfl
  | blank blank _ ih =>
    obtain ⟨limit, rfl⟩ := Nat.exists_eq_add_one_of_ne_zero (Nat.ne_zero_of_lt enough)
    rw [scanUpTo, if_pos blank]
    exact ih (Nat.le_of_succ_le_succ enough)
  | @cons lexeme lexemes literal rest here ends _ ih =>
    obtain ⟨byte, tail, rfl, unblank, next⟩ := here
    obtain ⟨limit, rfl⟩ := Nat.exists_eq_add_one_of_ne_zero (Nat.ne_zero_of_lt enough)
    have less : rest.length ≤ limit := by
      rw [List.cons_append, List.length_cons, List.length_append] at enough
      omega
    rw [List.cons_append, scanUpTo, unblank, if_neg Bool.false_ne_true,
      isLocal_next? byte _ _ _ _ next ends, List.nil_append]
    exact congrArg (lexeme :: ·) (ih less)

/-- **A text is cut into the lexemes that it is written with.** -/
theorem scan_of_cut (cut : Cut lexemes bytes) : scan bytes = lexemes :=
  cut.scanUpTo_eq (Nat.le_refl _)

end Lexeme


end Json

end SignedPurchase
