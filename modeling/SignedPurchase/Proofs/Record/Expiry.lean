import SignedPurchase.Record.Transaction

/-
**When a purchase has ended.**

The end of a purchase is a count of milliseconds, and a clock shows nanoseconds. Whether the one is
reached by the other is decided exactly, for every count within the calendar. A count after the calendar
is reached by no clock. A count before the calendar has passed at every moment, but is taken for none at
all: such a purchase never ends.

* `Instant.moment_le_iff`: moments are in the order of the nanoseconds since the start of 1970;
* `Moment.IsShown` are the moments of the calendar, all of which lie between its two ends;
* `Transaction.isExpiredAt_iff`: what is asked of a purchase;
* `Transaction.expiry_decided` puts this together;
* `Specimen.end_unnoticed`: a purchase that ended before the calendar began.
-/

namespace SignedPurchase

/-! ### Moments -/

/-- A moment that a clock of the calendar can show. -/
structure Moment.IsShown (moment : Moment) : Prop where
  notBefore : Instant.first ≤ moment.seconds * 1000
  notAfter : moment.seconds * 1000 + 999 ≤ Instant.last
  /-- A leap second takes two seconds at most. -/
  short : moment.nanoseconds < 2000000000

theorem Moment.le_iff {first last : Moment} : first ≤ last ↔ first.seconds < last.seconds ∨
    first.seconds = last.seconds ∧ first.nanoseconds ≤ last.nanoseconds :=
  Iff.rfl

theorem Moment.le_trans {first middle last : Moment} (begun : first ≤ middle)
    (lasting : middle ≤ last) : first ≤ last := by
  rw [le_iff] at begun lasting ⊢
  omega

namespace Instant

variable {instant : Instant} {now : Moment}

/-- An instant is reached with its second, or with its milliseconds in this second. -/
theorem moment_le : instant.moment ≤ now ↔ instant.milliseconds / 1000 < now.seconds ∨
    instant.milliseconds / 1000 = now.seconds ∧
      instant.milliseconds % 1000 * 1000000 ≤ now.nanoseconds := by
  have part : ((instant.milliseconds % 1000).toNat : Int) = instant.milliseconds % 1000 :=
    Int.toNat_of_nonneg (Int.emod_nonneg _ (by decide))
  rw [Moment.le_iff, moment, seconds]
  dsimp only
  omega

/-- **Outside leap seconds, moments are in the order of their nanoseconds** since the start of 1970. -/
theorem moment_le_iff (plain : now.nanoseconds < 1000000000) : instant.moment ≤ now ↔
    instant.milliseconds * 1000000 ≤ now.seconds * 1000000000 + now.nanoseconds := by
  rw [moment_le]
  omega

theorem moment_mono {first last : Instant} (later : first.milliseconds ≤ last.milliseconds) :
    first.moment ≤ last.moment := by
  have part : ((last.milliseconds % 1000).toNat : Int) = last.milliseconds % 1000 :=
    Int.toNat_of_nonneg (Int.emod_nonneg _ (by decide))
  rw [moment_le, moment, seconds]
  dsimp only
  omega

/-- What lies before the calendar has passed whenever a clock is read. -/
theorem moment_le_of_early (early : instant.milliseconds < first) (shown : now.IsShown) :
    instant.moment ≤ now := by
  have begun := shown.notBefore
  rw [moment_le]
  omega

/-- What lies after the calendar is never reached. -/
theorem not_moment_le_of_late (late : last < instant.milliseconds) (shown : now.IsShown) :
    ¬ instant.moment ≤ now := by
  have lasting := shown.notAfter
  rw [moment_le]
  omega

theorem ofMilliseconds?_eq_some_iff {count : Int64} : ofMilliseconds? count = some instant ↔
    (first ≤ count.toInt ∧ count.toInt ≤ last) ∧ instant = ⟨count.toInt⟩ := by
  rw [ofMilliseconds?, Option.ite_none_right_eq_some, Option.some.injEq, eq_comm (a := instant)]

/-- The end of the calendar is a moment of it. -/
theorem isShown_moment_last : (moment ⟨last⟩).IsShown where
  notBefore := by decide
  notAfter := by decide
  short := by decide

end Instant

/-! ### The end of a purchase -/

namespace Transaction

variable {transaction : Transaction} {now : Moment}

/-- **A purchase has ended** when it has an end within the calendar, which the clock has reached. -/
theorem isExpiredAt_iff : transaction.isExpiredAt now = true ↔
    ∃ date, transaction.expiresDate = some date ∧
      (Instant.first ≤ date.toInt ∧ date.toInt ≤ Instant.last) ∧
      Instant.moment ⟨date.toInt⟩ ≤ now := by
  have reached : transaction.isExpiredAt now = true ↔
      ∃ expires, transaction.expiresAt = some expires ∧ expires.moment ≤ now := by
    rw [isExpiredAt]
    cases transaction.expiresAt with
    | none => simp only [Bool.false_eq_true, reduceCtorEq, false_and, exists_false]
    | some expires => simp only [decide_eq_true_eq, Option.some.injEq, exists_eq_left']
  rw [reached, expiresAt]
  simp only [Option.bind_eq_some_iff, Instant.ofMilliseconds?_eq_some_iff]
  refine ⟨?_, ?_⟩
  · rintro ⟨_, ⟨date, ends, within, rfl⟩, passed⟩
    exact ⟨date, ends, within, passed⟩
  · rintro ⟨date, ends, within, passed⟩
    exact ⟨_, ⟨date, ends, within, rfl⟩, passed⟩

theorem isExpiredAt_of_le {first last : Moment} (later : first ≤ last)
    (ended : transaction.isExpiredAt first = true) : transaction.isExpiredAt last = true := by
  obtain ⟨date, ends, within, passed⟩ := isExpiredAt_iff.mp ended
  exact isExpiredAt_iff.mpr ⟨date, ends, within, Moment.le_trans passed later⟩

/-- What is asked of a purchase with an end, at a moment that a clock can show. -/
theorem isExpiredAt_iff_of_some {date : Int64} (ends : transaction.expiresDate = some date)
    (shown : now.IsShown) : transaction.isExpiredAt now = true ↔
      Instant.first ≤ date.toInt ∧ Instant.moment ⟨date.toInt⟩ ≤ now := by
  simp only [isExpiredAt_iff, ends, Option.some.injEq, exists_eq_left']
  refine ⟨?_, ?_⟩
  · rintro ⟨⟨begun, _⟩, passed⟩
    exact ⟨begun, passed⟩
  · rintro ⟨begun, passed⟩
    refine ⟨⟨begun, Int.not_lt.mp fun late => ?_⟩, passed⟩
    exact Instant.not_moment_le_of_late late shown passed

/-- **The end of a purchase is decided by the count that was sent**, unless the count lies before the
calendar: it has ended when the clock has reached the count, which outside leap seconds is to compare
nanoseconds. A count before the calendar has passed at every moment, and the purchase counts as one that
never ends. A purchase that has ended stays ended. It never ends exactly when there is no count, or one
outside the calendar: none of those after it is ever reached. -/
theorem expiry_decided (transaction : Transaction) :
    (∀ date, transaction.expiresDate = some date → ∀ now : Moment, now.IsShown →
      (transaction.isExpiredAt now = true ↔
        Instant.first ≤ date.toInt ∧ Instant.moment ⟨date.toInt⟩ ≤ now)) ∧
    (∀ (date : Int64) (now : Moment), now.nanoseconds < 1000000000 →
      (Instant.moment ⟨date.toInt⟩ ≤ now ↔
        date.toInt * 1000000 ≤ now.seconds * 1000000000 + now.nanoseconds)) ∧
    (∀ date, transaction.expiresDate = some date → date.toInt < Instant.first →
      ∀ now : Moment, now.IsShown →
        Instant.moment ⟨date.toInt⟩ ≤ now ∧ transaction.isExpiredAt now = false) ∧
    (∀ first last : Moment, first ≤ last → transaction.isExpiredAt first = true →
      transaction.isExpiredAt last = true) ∧
    ((∀ now : Moment, now.IsShown → transaction.isExpiredAt now = false) ↔
      ∀ date, transaction.expiresDate = some date →
        date.toInt < Instant.first ∨ Instant.last < date.toInt) := by
  refine ⟨fun date ends now shown => isExpiredAt_iff_of_some ends shown,
    fun date now plain => Instant.moment_le_iff plain, ?_,
    fun _ _ later ended => isExpiredAt_of_le later ended, ?_, ?_⟩
  · intro date ends early now shown
    refine ⟨Instant.moment_le_of_early early shown, Bool.eq_false_iff.mpr fun ended => ?_⟩
    have begun := ((isExpiredAt_iff_of_some ends shown).mp ended).1
    omega
  · intro never date ends
    refine Decidable.or_iff_not_imp_left.mpr fun begun => Int.not_le.mp fun lasting => ?_
    -- A count within the calendar is reached when the calendar ends.
    have passed : Instant.moment ⟨date.toInt⟩ ≤ Instant.moment ⟨Instant.last⟩ :=
      Instant.moment_mono lasting
    have ended := isExpiredAt_iff.mpr ⟨date, ends, ⟨Int.not_lt.mp begun, lasting⟩, passed⟩
    rw [never _ Instant.isShown_moment_last] at ended
    cases ended
  · intro outside now _
    refine Bool.eq_false_iff.mpr fun ended => ?_
    obtain ⟨date, ends, within, _⟩ := isExpiredAt_iff.mp ended
    have beyond := outside date ends
    omega

end Transaction

namespace Specimen

/-- A purchase with an end. -/
def purchase (expiresDate : Option Int64) : Transaction where
  transactionId := "1"
  firstTransactionId := "1"
  webOrderLineItemId := none
  bundleId := "bundle"
  productId := "monthly"
  subscriptionGroupIdentifier := none
  purchaseDate := none
  firstPurchaseDate := none
  expiresDate
  quantity := none
  productType := none
  appAccountToken := none
  ownershipType := none
  signedDate := none
  offerType := none
  offerIdentifier := none
  revocationDate := none
  revocationReason := none
  isUpgraded := none
  environment := none
  storefront := none
  transactionReason := none

/-- A moment of the year 2023, less than a millisecond before the end of a purchase. -/
def eve : Moment := ⟨1700000000, 122999999⟩

/-- The moment is one that a clock can show. -/
theorem eve_isShown : eve.IsShown where
  notBefore := by decide
  notAfter := by decide
  short := by decide

/-- **A purchase that ended before the calendar began** has not ended, a quarter of a million years
later. -/
theorem end_unnoticed : Instant.moment ⟨(-8334601228800001 : Int64).toInt⟩ ≤ eve ∧ eve.IsShown ∧
    (purchase (some (-8334601228800001))).isExpiredAt eve = false :=
  ⟨by decide, eve_isShown, by decide⟩

/-- One that ends within the calendar has not ended a nanosecond before, and has at the millisecond. -/
theorem end_noticed : eve.IsShown ∧ (purchase (some 1700000000123)).isExpiredAt eve = false ∧
    (purchase (some 1700000000122)).isExpiredAt eve = true ∧
    ∀ later, eve ≤ later → (purchase (some 1700000000122)).isExpiredAt later = true := by
  obtain ⟨decided, _, _, stays, _⟩ := Transaction.expiry_decided (purchase (some 1700000000122))
  have ended := (decided 1700000000122 rfl eve eve_isShown).mpr ⟨by decide, by decide⟩
  exact ⟨eve_isShown, by decide, ended, fun later after => stays eve later after ended⟩

end Specimen

end SignedPurchase
