import SignedPurchase.Key.Private
import SignedPurchase.Proofs.Der.Strict

/-
**Which documents hold a key of the curve.**

A document is written in one way only: a version, an algorithm with its parameters, a key, and what may
follow it. The key inside is a document of its own.

* `PrivateKeyInfo.IsDocument` and `ofBytes?_eq_some_iff`: the documents that are read;
* `PrivateKeyInfo.IsRest` and `PrivateKeyInfo.AreExtras`: what may follow a key, element by element;
* `PrivateKeyInfo.HoldsScalar` and `scalarOf?_eq_some_iff`: the keys of the curve.
-/

namespace SignedPurchase

namespace PrivateKeyInfo

open Der

variable {bytes rest : Bytes}

/-! ### Single elements -/

theorem length_wrap (tag : UInt8) (content : Bytes) :
    content.length + 2 ≤ (wrap tag content).length := by
  have measured : 1 ≤ (lengthBytes content.length).length := by
    unfold lengthBytes
    split
    · exact Nat.le_refl 1
    · exact Nat.le_add_left 1 _
  rw [wrap, List.length_cons, List.length_append]
  omega

/-- An element with a small tag, whose length fits into thirty-two bits. -/
structure IsElement (tag : UInt8) (content : Bytes) : Prop where
  small : tag.toNat % 32 ≠ 31
  short : content.length < 2 ^ 32

theorem anyStrict?_eq_some_iff {tag : UInt8} {content : Bytes} :
    anyStrict? bytes = some (tag, content, rest) ↔
      IsElement tag content ∧ bytes = wrap tag content ++ rest := by
  cases bytes with
  | nil => simp [anyStrict?, wrap]
  | cons first later =>
    rw [anyStrict?]
    refine ⟨?_, ?_⟩
    · intro read
      split at read
      · cases read
      · next small =>
        split at read
        · next found left cut =>
          cases read
          obtain ⟨short, whole⟩ := Strict.content?_eq_some_iff.mp cut
          exact ⟨⟨small, short⟩, whole⟩
        · cases read
    · rintro ⟨⟨small, short⟩, whole⟩
      obtain ⟨rfl, _⟩ := List.cons.inj whole
      rw [if_neg small, whole, Strict.content?_wrap short]

/-- Bytes are absent or a single element. -/
def IsSingle (bytes : Bytes) : Prop :=
  bytes = [] ∨ ∃ tag content, IsElement tag content ∧ bytes = wrap tag content

theorem areParameters_iff : areParameters bytes = true ↔ IsSingle bytes := by
  unfold areParameters IsSingle
  cases bytes with
  | nil => simp
  | cons first later =>
    refine ⟨?_, ?_⟩
    · intro single
      dsimp only at single
      split at single
      · next tag content read =>
        obtain ⟨element, whole⟩ := anyStrict?_eq_some_iff.mp read
        exact .inr ⟨tag, content, element, by rw [whole, List.append_nil]⟩
      · cases single
    · rintro (none | ⟨tag, content, element, whole⟩)
      · cases none
      · have read : anyStrict? (first :: later) = some (tag, content, []) :=
          anyStrict?_eq_some_iff.mpr ⟨element, by rw [whole, List.append_nil]⟩
        simp only [read]

/-! ### What may follow a key -/

/-- Marks, each around a single element. -/
inductive AreExtras : Bytes → Prop where
  | none : AreExtras []
  | mark {tag : UInt8} {content rest : Bytes} (element : IsElement tag content)
    (marked : (markNumber? tag).isSome = true) (compound : tag.toNat / 32 % 2 = 1)
    (filled : content ≠ []) (single : IsSingle content) (later : AreExtras rest) :
    AreExtras (wrap tag content ++ rest)

/-- What may follow a key: attributes, then a public key exactly when one must stand there, then marks of
other numbers. -/
inductive IsRest : (expected : Bool) → Bytes → Prop where
  | none : IsRest false []
  | attributes {expected : Bool} {tag : UInt8} {content rest : Bytes} (element : IsElement tag content)
    (mark : markNumber? tag = some 0) (later : IsRest expected rest) :
    IsRest expected (wrap tag content ++ rest)
  | publicKey {content rest : Bytes} (element : IsElement 0x81 content)
    (whole : content.head? = some 0x00) (later : AreExtras rest) :
    IsRest true (wrap 0x81 content ++ rest)
  | extras {tag : UInt8} {content rest : Bytes} (element : IsElement tag content)
    (other : markNumber? tag ≠ some 0 ∧ markNumber? tag ≠ some 1)
    (later : AreExtras (wrap tag content ++ rest)) :
    IsRest false (wrap tag content ++ rest)

section Steps

variable {tag : UInt8} {content : Bytes}

theorem anyStrict?_wrap (element : IsElement tag content) (rest : Bytes) :
    anyStrict? (wrap tag content ++ rest) = some (tag, content, rest) :=
  anyStrict?_eq_some_iff.mpr ⟨element, rfl⟩

theorem length_lt_of_wrap (tag : UInt8) (content rest : Bytes) :
    rest.length < (wrap tag content ++ rest).length := by
  have size := length_wrap tag content
  rw [List.length_append]
  omega

theorem areExtras_of_read (limit : Nat) (read : anyStrict? bytes = some (tag, content, rest)) :
    areExtras (limit + 1) bytes = ((markNumber? tag).isSome && tag.toNat / 32 % 2 == 1 &&
      !content.isEmpty && areParameters content && areExtras limit rest) := by
  cases bytes with
  | nil => cases read
  | cons first later => simp only [areExtras, read]

theorem isRest_of_read {expected : Bool} (limit : Nat)
    (read : anyStrict? bytes = some (tag, content, rest)) :
    isRest expected (limit + 1) bytes =
      if markNumber? tag = some 0 then isRest expected limit rest
      else if markNumber? tag = some 1 then
        expected && tag == 0x81 && content.head? == some 0x00 && areExtras limit rest
      else !expected && areExtras (limit + 1) bytes := by
  cases bytes with
  | nil => cases read
  | cons first later =>
    simp only [isRest, read]
    split
    · next mark => rw [if_pos mark]
    · next mark =>
      have other : markNumber? tag ≠ some 0 := by
        rw [mark]
        decide
      rw [if_neg other, if_pos mark]
    · next other other' => rw [if_neg other, if_neg other']

end Steps

/-- **Marks are read one by one**, and there are no more of them than bytes. -/
theorem areExtras_iff {limit : Nat} (enough : bytes.length ≤ limit) :
    areExtras limit bytes = true ↔ AreExtras bytes := by
  induction limit generalizing bytes with
  | zero =>
    obtain rfl := List.length_eq_zero_iff.mp (Nat.le_zero.mp enough)
    exact ⟨fun _ => .none, fun _ => rfl⟩
  | succ limit ih =>
    refine ⟨?_, ?_⟩
    · intro extras
      cases read : anyStrict? bytes with
      | none =>
        cases bytes with
        | nil => exact .none
        | cons first later => simp [areExtras, read] at extras
      | some found =>
        obtain ⟨tag, content, rest⟩ := found
        rw [areExtras_of_read limit read] at extras
        simp only [Bool.and_eq_true, beq_iff_eq, Bool.not_eq_true', List.isEmpty_eq_false_iff,
          areParameters_iff] at extras
        obtain ⟨⟨⟨⟨marked, compound⟩, filled⟩, single⟩, later⟩ := extras
        obtain ⟨element, rfl⟩ := anyStrict?_eq_some_iff.mp read
        have shorter := length_lt_of_wrap tag content rest
        exact .mark element marked compound filled single ((ih (by omega)).mp later)
    · intro extras
      cases extras with
      | none => rfl
      | @mark tag content rest element marked compound filled single later =>
        have shorter := length_lt_of_wrap tag content rest
        rw [areExtras_of_read limit (anyStrict?_wrap element rest)]
        simp only [Bool.and_eq_true, beq_iff_eq, Bool.not_eq_true', List.isEmpty_eq_false_iff,
          areParameters_iff]
        exact ⟨⟨⟨⟨marked, compound⟩, filled⟩, single⟩, (ih (by omega)).mpr later⟩

theorem isRest_nil_iff {expected : Bool} (limit : Nat) :
    isRest expected limit [] = true ↔ IsRest expected [] := by
  rw [isRest]
  cases expected with
  | false => exact ⟨fun _ => .none, fun _ => rfl⟩
  | true =>
    refine ⟨nofun, fun rest => ?_⟩
    generalize whole : ([] : Bytes) = bytes at rest
    cases rest <;> cases whole

/-- **What follows a key is read element by element.** -/
theorem isRest_iff {expected : Bool} {limit : Nat} (enough : bytes.length ≤ limit) :
    isRest expected limit bytes = true ↔ IsRest expected bytes := by
  induction limit generalizing bytes with
  | zero =>
    obtain rfl := List.length_eq_zero_iff.mp (Nat.le_zero.mp enough)
    exact isRest_nil_iff 0
  | succ limit ih =>
    refine ⟨?_, ?_⟩
    · intro following
      cases read : anyStrict? bytes with
      | none =>
        cases bytes with
        | nil => exact (isRest_nil_iff _).mp following
        | cons first later => simp [isRest, read] at following
      | some found =>
        obtain ⟨tag, content, rest⟩ := found
        rw [isRest_of_read limit read] at following
        obtain ⟨element, rfl⟩ := anyStrict?_eq_some_iff.mp read
        have shorter := length_lt_of_wrap tag content rest
        split at following
        · next mark => exact .attributes element mark ((ih (by omega)).mp following)
        · next other =>
          split at following
          · next mark =>
            simp only [Bool.and_eq_true, beq_iff_eq] at following
            obtain ⟨⟨⟨rfl, rfl⟩, bits⟩, later⟩ := following
            exact .publicKey element bits ((areExtras_iff (by omega)).mp later)
          · next other' =>
            rw [Bool.and_eq_true, Bool.not_eq_true'] at following
            obtain ⟨rfl, later⟩ := following
            exact .extras element ⟨other, other'⟩ ((areExtras_iff enough).mp later)
    · intro following
      cases following with
      | none => rfl
      | @attributes _ tag content rest element mark later =>
        have shorter := length_lt_of_wrap tag content rest
        rw [isRest_of_read limit (anyStrict?_wrap element rest), if_pos mark]
        exact (ih (by omega)).mpr later
      | @publicKey content rest element bits later =>
        have shorter := length_lt_of_wrap 0x81 content rest
        have mark : markNumber? 0x81 = some 1 := rfl
        rw [isRest_of_read limit (anyStrict?_wrap element rest), if_neg (by decide), if_pos mark]
        simp only [bits, beq_self_eq_true, Bool.true_and]
        exact (areExtras_iff (by omega)).mpr later
      | @extras tag content rest element other later =>
        rw [isRest_of_read limit (anyStrict?_wrap element rest), if_neg other.1, if_neg other.2]
        exact (areExtras_iff enough).mpr later

/-! ### Documents -/

/-- **A document** in either version: an algorithm with its parameters, a key, and what may follow it. -/
structure IsDocument (bytes : Bytes) (info : PrivateKeyInfo) : Prop where
  written : ∃ version rest content, version ≤ 1 ∧ IsRest (version == 1) rest ∧
    content.length < 2 ^ 32 ∧ bytes = wrap 0x30 content ∧
    content = wrap 0x02 [UInt8.ofNat version] ++
      (wrap 0x30 (wrap 0x06 info.algorithm.bytes ++ info.parameters) ++ (wrap 0x04 info.key ++ rest))
  identifier : isIdentifier info.algorithm.bytes = true
  parameters : IsSingle info.parameters

/-- **The documents that are read.** -/
theorem ofBytes?_eq_some_iff {info : PrivateKeyInfo} :
    ofBytes? bytes = some info ↔ IsDocument bytes info := by
  unfold ofBytes?
  simp only [Option.bind_eq_bind, Option.bind_eq_some_iff, Prod.exists, Strict.only?_eq_some_iff,
    Strict.content?_eq_some_iff, Option.ite_none_right_eq_some, Bool.and_eq_true, decide_eq_true_eq,
    areParameters_iff, Option.some.injEq]
  refine ⟨?_, ?_⟩
  · rintro ⟨content, ⟨short, rfl⟩, version, rest, numbered, algorithm, _, ⟨_, rfl⟩, kind, parameters,
      ⟨_, rfl⟩, key, rest, ⟨_, rfl⟩, ⟨⟨⟨few, identifier⟩, single⟩, following⟩, rfl⟩
    rw [Strict.natural?_eq_some_iff_of_small (by omega)] at numbered
    exact ⟨⟨version, rest, content, few, (isRest_iff (Nat.le_refl _)).mp following, short, rfl,
      numbered⟩, identifier, single⟩
  · rintro ⟨⟨version, rest, content, few, following, short, rfl, whole⟩, identifier, single⟩
    have outer := length_wrap 0x30 (wrap 0x06 info.algorithm.bytes ++ info.parameters)
    have inner := length_wrap 0x06 info.algorithm.bytes
    have last := length_wrap 0x04 info.key
    have size := congrArg List.length whole
    simp only [List.length_append] at size outer
    refine ⟨content, ⟨short, rfl⟩, version, _, ?_, _, _, ⟨?_, rfl⟩, _, info.parameters, ⟨?_, rfl⟩,
      info.key, rest, ⟨?_, rfl⟩, ⟨⟨⟨few, identifier⟩, single⟩, ?_⟩, rfl⟩
    · exact (Strict.natural?_eq_some_iff_of_small (by omega)).mpr whole
    · rw [List.length_append]
      omega
    · omega
    · omega
    · exact (isRest_iff (Nat.le_refl _)).mpr following

theorem ofBytes?_eq_none_iff : ofBytes? bytes = none ↔ ∀ info, ¬ IsDocument bytes info := by
  simp only [Option.eq_none_iff_forall_ne_some, ne_eq, ofBytes?_eq_some_iff]

/-! ### Keys of the curve -/

/-- A public key beside a key, or nothing. -/
def IsBeside (bytes : Bytes) (form : Option Bytes) : Prop :=
  (bytes = [] ∧ form = none) ∨
    ∃ own, bytes = wrap 0xA1 (wrap 0x03 (0x00 :: own)) ∧ form = some own

/-- What may stand beside a key: an identifier of the curve, and a public key. -/
def AreCompanions (bytes : Bytes) (form : Option Bytes) : Prop :=
  ∃ named later, bytes = named ++ later ∧
    (named = [] ∨ ∃ identifier, isIdentifier identifier = true ∧
      named = wrap 0xA0 (wrap 0x06 identifier)) ∧
    IsBeside later form

/-- The public key that stands beside a key, if there is one. -/
def beside? (bytes : Bytes) : Option (Option Bytes) :=
  match bytes with
  | [] => some none
  | bytes => do
    let content ← Der.Strict.only? 0xA1 bytes
    match Der.Strict.only? 0x03 content with
    | some (0x00 :: form) => some (some form)
    | _ => none

theorem beside?_eq_some_iff {form : Option Bytes} (short : bytes.length < 2 ^ 32) :
    beside? bytes = some form ↔ IsBeside bytes form := by
  refine ⟨?_, ?_⟩
  · intro read
    unfold beside? at read
    split at read
    · cases read
      exact .inl ⟨rfl, rfl⟩
    · obtain ⟨content, outer, found⟩ := Option.bind_eq_some_iff.mp read
      obtain ⟨_, rfl⟩ := Strict.only?_eq_some_iff.mp outer
      split at found
      · next own inner =>
        cases found
        obtain ⟨_, rfl⟩ := Strict.only?_eq_some_iff.mp inner
        exact .inr ⟨own, rfl, rfl⟩
      · cases found
  · rintro (⟨rfl, rfl⟩ | ⟨own, rfl, rfl⟩)
    · rfl
    · have outer := length_wrap 0xA1 (wrap 0x03 (0x00 :: own))
      have inner := length_wrap 0x03 (0x00 :: own)
      have read : Strict.only? 0xA1 (wrap 0xA1 (wrap 0x03 (0x00 :: own))) =
          some (wrap 0x03 (0x00 :: own)) :=
        Strict.only?_eq_some_iff.mpr ⟨by omega, rfl⟩
      have read' : Strict.only? 0x03 (wrap 0x03 (0x00 :: own)) = some (0x00 :: own) :=
        Strict.only?_eq_some_iff.mpr ⟨by omega, rfl⟩
      rw [beside?]
      · rw [read, Option.bind_eq_bind, Option.bind_some, read']
        rfl
      · nofun

theorem companions?_eq (bytes : Bytes) :
    companions? bytes = match Strict.content? 0xA0 bytes with
      | some (parameters, rest) =>
        match Strict.only? 0x06 parameters with
        | some identifier => if isIdentifier identifier then beside? rest else none
        | none => none
      | none => beside? bytes := rfl

theorem companions?_eq_some_iff {form : Option Bytes} (short : bytes.length < 2 ^ 32) :
    companions? bytes = some form ↔ AreCompanions bytes form := by
  rw [companions?_eq]
  refine ⟨?_, ?_⟩
  · intro read
    split at read
    · next parameters rest named =>
      obtain ⟨_, rfl⟩ := Strict.content?_eq_some_iff.mp named
      split at read
      · next identifier single =>
        obtain ⟨_, rfl⟩ := Strict.only?_eq_some_iff.mp single
        rw [Option.ite_none_right_eq_some] at read
        obtain ⟨known, read⟩ := read
        rw [List.length_append] at short
        exact ⟨_, rest, rfl, .inr ⟨identifier, known, rfl⟩, (beside?_eq_some_iff (by omega)).mp read⟩
      · cases read
    · exact ⟨[], bytes, rfl, .inl rfl, (beside?_eq_some_iff short).mp read⟩
  · rintro ⟨named, later, rfl, rfl | ⟨identifier, known, rfl⟩, beside⟩
    · -- A public key does not begin as an identifier of the curve does.
      have unnamed : Strict.content? 0xA0 ([] ++ later) = none := by
        rcases beside with ⟨rfl, _⟩ | ⟨own, rfl, _⟩
        · rfl
        · rfl
      rw [unnamed]
      exact (beside?_eq_some_iff short).mpr beside
    · have outer := length_wrap 0xA0 (wrap 0x06 identifier)
      have inner := length_wrap 0x06 identifier
      rw [List.length_append] at short
      have read : Strict.only? 0x06 (wrap 0x06 identifier) = some identifier :=
        Strict.only?_eq_some_iff.mpr ⟨by omega, rfl⟩
      rw [Strict.content?_wrap (by omega)]
      simp only [read, known, if_true]
      exact (beside?_eq_some_iff (by omega)).mpr beside

/-- **A key of the curve**: a number from one up to the order, in twenty-four to thirty-two bytes, beside
which nothing stands but the curve and the public key that belongs to it. -/
def IsScalar (bytes : Bytes) (scalar : Nat) : Prop :=
  ∃ digits companions form content, content.length < 2 ^ 32 ∧ bytes = wrap 0x30 content ∧
    content = wrap 0x02 [0x01] ++ (wrap 0x04 digits ++ companions) ∧
    24 ≤ digits.length ∧ digits.length ≤ 32 ∧ scalar = Bytes.toNat digits ∧ 0 < scalar ∧
    scalar < Curve.p256.order ∧ AreCompanions companions form ∧
    ∀ own ∈ form, ∃ point, pointOfForm? own = some point ∧
      Curve.p256.multipleOfBase scalar = some point

theorem matchesScalar_iff {scalar : Nat} {own : Bytes} :
    matchesScalar scalar own = true ↔ ∃ point, pointOfForm? own = some point ∧
      Curve.p256.multipleOfBase scalar = some point := by
  rw [matchesScalar]
  cases pointOfForm? own with
  | none => simp
  | some point => simp

/-- **The keys that are read.** -/
theorem scalarOf?_eq_some_iff {scalar : Nat} : scalarOf? bytes = some scalar ↔ IsScalar bytes scalar := by
  unfold scalarOf?
  simp only [Option.bind_eq_bind, Option.bind_eq_some_iff, Prod.exists, Strict.only?_eq_some_iff,
    Strict.content?_eq_some_iff, Option.ite_none_right_eq_some, Bool.and_eq_true, decide_eq_true_eq,
    Option.some.injEq, Option.all_eq_true, matchesScalar_iff]
  refine ⟨?_, ?_⟩
  · rintro ⟨content, ⟨short, rfl⟩, version, rest, numbered, digits, companions, ⟨_, rfl⟩, form, read,
      ⟨⟨⟨⟨⟨rfl, least⟩, most⟩, positive⟩, below⟩, own⟩, rfl⟩
    rw [Strict.natural?_eq_some_iff_of_small (by decide)] at numbered
    have size := congrArg List.length numbered
    simp only [List.length_append] at size
    exact ⟨digits, companions, form, content, short, rfl, numbered, least, most, rfl, positive, below,
      (companions?_eq_some_iff (by omega)).mp read, own⟩
  · rintro ⟨digits, companions, form, content, short, rfl, whole, least, most, rfl, positive, below,
      companion, own⟩
    have inner := length_wrap 0x04 digits
    have size := congrArg List.length whole
    simp only [List.length_append] at size
    exact ⟨content, ⟨short, rfl⟩, 1, _,
      (Strict.natural?_eq_some_iff_of_small (by decide)).mpr whole, digits, companions,
      ⟨by omega, rfl⟩, form, (companions?_eq_some_iff (by omega)).mpr companion,
      ⟨⟨⟨⟨⟨rfl, least⟩, most⟩, positive⟩, below⟩, own⟩, rfl⟩

/-- **A document holds a key of the curve**: its algorithm names elliptic keys, its parameters the curve,
and its key is one of it. -/
structure HoldsScalar (info : PrivateKeyInfo) (scalar : Nat) : Prop where
  algorithm : info.algorithm = Oid.ellipticKey
  parameters : info.parameters = wrap 0x06 Oid.p256.bytes
  key : IsScalar info.key scalar

theorem scalar?_eq_some_iff {info : PrivateKeyInfo} {scalar : Nat} :
    info.scalar? = some scalar ↔ info.HoldsScalar scalar := by
  rw [scalar?, Option.ite_none_right_eq_some, Bool.and_eq_true, decide_eq_true_eq, isP256, beq_iff_eq,
    Strict.only?_eq_some_iff, scalarOf?_eq_some_iff]
  refine ⟨?_, ?_⟩
  · rintro ⟨⟨algorithm, _, parameters⟩, key⟩
    exact ⟨algorithm, parameters, key⟩
  · rintro ⟨algorithm, parameters, key⟩
    exact ⟨⟨algorithm, by decide, parameters⟩, key⟩

theorem scalar?_eq_none_iff {info : PrivateKeyInfo} :
    info.scalar? = none ↔ ∀ scalar, ¬ info.HoldsScalar scalar := by
  simp only [Option.eq_none_iff_forall_ne_some, ne_eq, scalar?_eq_some_iff]

end PrivateKeyInfo

end SignedPurchase
