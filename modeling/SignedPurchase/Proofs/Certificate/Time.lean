import SignedPurchase.Proofs.Trust.Certification

/-
**Times in their order.**

The times of seconds stand in the order of the seconds, in whichever form each of them is, and a
second between two that have times has a time itself.

* `Calendar.year_mono`: a later day is never of an earlier year;
* `CertificateTime.IsAtMost.trans`: the order of times is transitive, forms included;
* `CertificateTime.ofSeconds?_between`: the seconds that have times are without gaps, and their times
  are in order.
-/

namespace SignedPurchase

/-! ### Years -/

namespace Calendar

/-- The day within an era of four hundred years. -/
def dayOfEra (number : Int) : Int :=
  (number + 719468) % 146097

/-- The year within an era to which a day of the era belongs. Every year begins in March. -/
def yearOfEra (day : Int) : Int :=
  (day - day / 1460 + day / 36524 - day / 146096) / 365

/-- The days since the beginning of the year, for a day within an era. -/
def dayOfYear (day : Int) : Int :=
  day - (365 * yearOfEra day + yearOfEra day / 4 - yearOfEra day / 100)

/-- The year to which a day belongs when every year begins in March. -/
def marchYear (number : Int) : Int :=
  yearOfEra (dayOfEra number) + (number + 719468) / 146097 * 400

theorem dayOfEra_bounds (number : Int) : 0 ≤ dayOfEra number ∧ dayOfEra number ≤ 146096 := by
  unfold dayOfEra
  omega

/-- Within an era, a later day is never of an earlier year. The last day of the era would be the first
of a year too many without the correction that it alone gets. -/
theorem yearOfEra_mono {first second : Int} (begun : 0 ≤ first) (before : first ≤ second)
    (lasting : second ≤ 146096) : yearOfEra first ≤ yearOfEra second := by
  have counted : first - first / 1460 + first / 36524 - first / 146096 ≤
      second - second / 1460 + second / 36524 - second / 146096 := by
    by_cases final : second = 146096
    · subst final
      omega
    · have steps : second / 1460 - first / 1460 ≤ second - first := by omega
      omega
  exact Int.ediv_le_ediv (by decide) counted

theorem yearOfEra_bounds {day : Int} (begun : 0 ≤ day) (lasting : day ≤ 146096) :
    0 ≤ yearOfEra day ∧ yearOfEra day ≤ 399 := by
  have first := yearOfEra_mono (Int.le_refl 0) begun lasting
  have last := yearOfEra_mono begun lasting (Int.le_refl 146096)
  have zero : yearOfEra 0 = 0 := by decide
  have all : yearOfEra 146096 = 399 := by decide
  omega

/-- A year has at most 366 days. -/
theorem dayOfYear_bounds {day : Int} (begun : 0 ≤ day) (lasting : day ≤ 146096) :
    0 ≤ dayOfYear day ∧ dayOfYear day ≤ 365 := by
  unfold dayOfYear
  by_cases final : day = 146096
  · subst final
    decide
  · -- A century has 36524 days, but for the last day of the era, and four years have 1461 at most.
    obtain ⟨century, cycle, rest, parts, centuryLeast, centuryMost, cycleLeast, cycleMost, restLeast,
        restMost, within⟩ :
        ∃ century cycle rest : Int, day = 36524 * century + 1461 * cycle + rest ∧
          0 ≤ century ∧ century ≤ 3 ∧ 0 ≤ cycle ∧ cycle ≤ 24 ∧ 0 ≤ rest ∧ rest ≤ 1460 ∧
          1461 * cycle + rest ≤ 36523 :=
      ⟨day / 36524, day % 36524 / 1461, day % 36524 % 1461, by omega, by omega, by omega,
        by omega, by omega, by omega, by omega, by omega⟩
    obtain ⟨year, yearLeast, yearMost, begins, ends⟩ : ∃ year : Int, 0 ≤ year ∧ year ≤ 3 ∧
        365 * year ≤ rest ∧ (rest ≤ 365 * year + 364 ∨ year = 3) := by
      by_cases leap : rest = 1460
      · exact ⟨3, by omega, by omega, by omega, .inr rfl⟩
      · exact ⟨rest / 365, by omega, by omega, by omega, by omega⟩
    have centuries : day / 36524 = century := by omega
    have eras : day / 146096 = 0 := by omega
    have cycles : day / 1460 = 25 * century + cycle ∧ rest < 1460 ∨
        day / 1460 = 25 * century + cycle + 1 ∧ 1364 ≤ rest := by omega
    have years : yearOfEra day = 100 * century + 4 * cycle + year := by
      unfold yearOfEra
      omega
    have leaps : yearOfEra day / 4 = 25 * century + cycle := by omega
    have hundreds : yearOfEra day / 100 = century := by omega
    omega

/-- A later day is of a later year that begins in March, or later within the same one. -/
theorem marchYear_lt_or {first second : Int} (before : first ≤ second) :
    marchYear first < marchYear second ∨ marchYear first = marchYear second ∧
      dayOfYear (dayOfEra first) ≤ dayOfYear (dayOfEra second) := by
  obtain ⟨firstBegun, firstLasting⟩ := dayOfEra_bounds first
  obtain ⟨secondBegun, secondLasting⟩ := dayOfEra_bounds second
  obtain ⟨firstLeast, firstMost⟩ := yearOfEra_bounds firstBegun firstLasting
  obtain ⟨secondLeast, secondMost⟩ := yearOfEra_bounds secondBegun secondLasting
  have eras : (first + 719468) / 146097 ≤ (second + 719468) / 146097 :=
    Int.ediv_le_ediv (by decide) (by omega)
  unfold marchYear
  by_cases same : (first + 719468) / 146097 = (second + 719468) / 146097
  · have days : dayOfEra first ≤ dayOfEra second := by
      unfold dayOfEra
      omega
    have years := yearOfEra_mono firstBegun days secondLasting
    by_cases sameYear : yearOfEra (dayOfEra first) = yearOfEra (dayOfEra second)
    · right
      unfold dayOfYear
      rw [sameYear, same]
      omega
    · left
      omega
  · left
    omega

/-- The year of a day, which is the next one after the last of December. -/
theorem year_ofNumber (number : Int) :
    (Day.ofNumber number).year =
      marchYear number + if dayOfYear (dayOfEra number) < 306 then 0 else 1 := by
  obtain ⟨begun, lasting⟩ := dayOfEra_bounds number
  obtain ⟨least, most⟩ := dayOfYear_bounds begun lasting
  have day : dayOfEra number = number + 719468 - (number + 719468) / 146097 * 146097 := by
    unfold dayOfEra
    omega
  have shown : (Day.ofNumber number).year =
      let monthFromMarch := (5 * dayOfYear (dayOfEra number) + 2) / 153
      let month := if monthFromMarch < 10 then monthFromMarch + 3 else monthFromMarch - 9
      if month ≤ 2 then marchYear number + 1 else marchYear number := by
    unfold Day.ofNumber dayOfYear marchYear yearOfEra
    rw [day]
  rw [shown]
  dsimp only
  split_ifs <;> omega

/-- **A later day is never of an earlier year.** -/
theorem year_mono {first second : Int} (before : first ≤ second) :
    (Day.ofNumber first).year ≤ (Day.ofNumber second).year := by
  rw [year_ofNumber, year_ofNumber]
  rcases marchYear_lt_or before with years | ⟨years, days⟩
  · split_ifs <;> omega
  · split_ifs <;> omega

end Calendar

/-! ### Times -/

namespace CertificateTime

/-- The order of times is transitive. -/
theorem IsAtMost.trans {first second third : CertificateTime} (before : first.IsAtMost second)
    (after : second.IsAtMost third) : first.IsAtMost third := by
  refine ⟨Int.le_trans before.instant after.instant, ?_⟩
  intro same long
  have earlier := before.instant
  have later := after.instant
  have secondLong : second.isLong = true := before.form (by omega) long
  exact after.form (by omega) secondLong

/-- The times of seconds are in the order of the seconds. -/
theorem isAtMost_of_ofSeconds? {first second : Int} {before after : CertificateTime}
    (ordered : first ≤ second) (firstTimed : ofSeconds? first = some before)
    (secondTimed : ofSeconds? second = some after) : before.IsAtMost after := by
  have early := instant_of_ofSeconds? firstTimed
  have late := instant_of_ofSeconds? secondTimed
  refine ⟨by omega, ?_⟩
  intro same long
  have sameSecond : first = second := by omega
  rw [sameSecond, secondTimed] at firstTimed
  rw [Option.some.inj firstTimed]
  exact long

/-- The seconds that have a time are those of certain years. -/
theorem ofSeconds?_isSome_iff {seconds : Int} :
    (ofSeconds? seconds).isSome = true ↔
      -9999 ≤ (Calendar.Day.ofNumber (seconds / 86400)).year ∧
        (Calendar.Day.ofNumber (seconds / 86400)).year ≤ 9999 := by
  unfold ofSeconds?
  by_cases within : isYear (Calendar.Day.ofNumber (seconds / 86400)).year = true
  · simp only [within, if_true, Option.isSome_some, true_iff]
    simpa [isYear] using within
  · simp only [within, if_false, Option.isSome_none, Bool.false_eq_true, false_iff]
    simpa [isYear] using within

/-- **A second between two that have times has a time**, and the three times are in order. -/
theorem ofSeconds?_between {first middle last : Int} {before after : CertificateTime}
    (begun : first ≤ middle) (lasting : middle ≤ last) (firstTimed : ofSeconds? first = some before)
    (lastTimed : ofSeconds? last = some after) :
    ∃ time, ofSeconds? middle = some time ∧ before.IsAtMost time ∧ time.IsAtMost after := by
  have least := (ofSeconds?_isSome_iff.mp (Option.isSome_of_eq_some firstTimed)).1
  have most := (ofSeconds?_isSome_iff.mp (Option.isSome_of_eq_some lastTimed)).2
  have early : first / 86400 ≤ middle / 86400 := Int.ediv_le_ediv (by decide) begun
  have late : middle / 86400 ≤ last / 86400 := Int.ediv_le_ediv (by decide) lasting
  have timed : (ofSeconds? middle).isSome = true :=
    ofSeconds?_isSome_iff.mpr
      ⟨Int.le_trans least (Calendar.year_mono early), Int.le_trans (Calendar.year_mono late) most⟩
  obtain ⟨time, timed⟩ := Option.isSome_iff_exists.mp timed
  exact ⟨time, timed, isAtMost_of_ofSeconds? begun firstTimed timed,
    isAtMost_of_ofSeconds? lasting timed lastTimed⟩

end CertificateTime

end SignedPurchase
