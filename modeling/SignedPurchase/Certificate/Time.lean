import SignedPurchase.Der.Element

/-
**Times of certificates.**

A time is a count of seconds and milliseconds with a zone, and it remembers whether it was written
in the long form, with a year of four digits. Two times are compared by their instants first; at the
same instant, a short form comes before a long one.

* `CertificateTime.read?` reads a time in either form;
* `CertificateTime.ofSeconds?` is the time of an instant, in the long form when its year is after
  2049;
* `CertificateTime.text` shows a time as `Jan  1 00:00:00 2020 +00:00`, in its own zone.
-/

namespace SignedPurchase

/-! ### The calendar -/

namespace Calendar

/-- Whether a year has 366 days. -/
def isLeap (year : Int) : Bool :=
  year % 4 == 0 && (year % 100 != 0 || year % 400 == 0)

/-- The number of days of a month. -/
def daysOfMonth (year : Int) (month : Nat) : Nat :=
  if month = 2 then (if isLeap year then 29 else 28)
  else if month = 4 || month = 6 || month = 9 || month = 11 then 30
  else 31

/-- A day. -/
structure Day where
  year : Int
  month : Nat
  day : Nat
  deriving DecidableEq, Repr

/-- Whether there is such a day. -/
def Day.isValid (date : Day) : Bool :=
  1 ≤ date.month && date.month ≤ 12 && 1 ≤ date.day && date.day ≤ daysOfMonth date.year date.month

/-- The number of days since the start of 1970. Years are counted from March, so that the leap day
comes last. -/
def Day.number (date : Day) : Int :=
  let year := if date.month ≤ 2 then date.year - 1 else date.year
  let era := year / 400
  let yearOfEra := year - era * 400
  let monthFromMarch : Nat := (date.month + 9) % 12
  let dayOfYear : Int := ((153 * monthFromMarch + 2) / 5 + date.day - 1 : Nat)
  era * 146097 + (yearOfEra * 365 + yearOfEra / 4 - yearOfEra / 100 + dayOfYear) - 719468

/-- The day of a number of days since the start of 1970. -/
def Day.ofNumber (number : Int) : Day :=
  let shifted := number + 719468
  let era := shifted / 146097
  let dayOfEra := shifted - era * 146097
  let yearOfEra := (dayOfEra - dayOfEra / 1460 + dayOfEra / 36524 - dayOfEra / 146096) / 365
  let dayOfYear := dayOfEra - (365 * yearOfEra + yearOfEra / 4 - yearOfEra / 100)
  let monthFromMarch := (5 * dayOfYear + 2) / 153
  let month := if monthFromMarch < 10 then monthFromMarch + 3 else monthFromMarch - 9
  let year := yearOfEra + era * 400
  { year := if month ≤ 2 then year + 1 else year
    month := month.toNat
    day := (dayOfYear - (153 * monthFromMarch + 2) / 5 + 1).toNat }

/-- The short names of the months. -/
def monthNames : List String :=
  ["Jan", "Feb", "Mar", "Apr", "May", "Jun", "Jul", "Aug", "Sep", "Oct", "Nov", "Dec"]

end Calendar

/-! ### Times -/

/-- A time of a certificate. -/
structure CertificateTime where
  /-- Seconds since the start of 1970. -/
  seconds : Int
  milliseconds : Nat
  /-- Minutes by which the zone is ahead. -/
  zone : Int
  /-- Whether the time was written in the long form. -/
  isLong : Bool
  deriving DecidableEq, Repr

namespace CertificateTime

/-- The instant in milliseconds. -/
def instant (time : CertificateTime) : Int :=
  time.seconds * 1000 + time.milliseconds

/-- Whether a time is not after another. -/
def atMost (left right : CertificateTime) : Bool :=
  left.instant < right.instant ||
    (left.instant == right.instant && (!left.isLong || right.isLong))

/-- The years in which times can be compared. -/
def isYear (year : Int) : Bool :=
  -9999 ≤ year && year ≤ 9999

/-- The time of a count of seconds, within the years that can be compared. -/
def ofSeconds? (seconds : Int) : Option CertificateTime :=
  let year := (Calendar.Day.ofNumber (seconds / 86400)).year
  if isYear year then some ⟨seconds, 0, 0, 2049 < year⟩ else none

/-! ### Reading -/

/-- The value of two decimal digits. -/
def twoDigits? (high low : UInt8) : Option Nat :=
  if 0x30 ≤ high && high ≤ 0x39 && 0x30 ≤ low && low ≤ 0x39 then
    some ((high.toNat - 0x30) * 10 + (low.toNat - 0x30))
  else none

/-- The numbers of so many pairs of digits, and what follows them. -/
def pairs? : Nat → Bytes → Option (List Nat × Bytes)
  | 0, bytes => some ([], bytes)
  | count + 1, high :: low :: rest =>
    match twoDigits? high low, pairs? count rest with
    | some value, some (values, rest) => some (value :: values, rest)
    | _, _ => none
  | _ + 1, _ => none

/-- The part of a time that both forms share: its numbers, and the minutes of its zone. -/
structure Written where
  month : Nat
  day : Nat
  hour : Nat
  minute : Nat
  second : Nat
  milliseconds : Nat
  zoneHours : Int
  zoneMinutes : Int
  deriving DecidableEq, Repr

/-- Whether the numbers are within the bounds that hold for every day. -/
def Written.isPlausible (written : Written) : Bool :=
  written.month ≤ 12 && written.day ≤ 31 && written.hour ≤ 23 && written.minute ≤ 59 &&
    written.second ≤ 59

/-- The minutes of the zone, which bear the sign of the hours unless there are none. -/
def Written.zone? (written : Written) : Option Int :=
  if written.zoneHours.natAbs ≤ 25 && written.zoneMinutes ≤ 59 then
    if written.zoneHours < 0 then some (written.zoneHours * 60 - written.zoneMinutes)
    else some (written.zoneHours * 60 + written.zoneMinutes)
  else none

/-- The time of a year and the rest, if there is such a day. -/
def Written.time? (written : Written) (year : Int) (isLong : Bool) : Option CertificateTime :=
  let date : Calendar.Day := ⟨year, written.month, written.day⟩
  match written.zone? with
  | some zone =>
    if date.isValid then
      let clock : Int := ((written.hour * 60 + written.minute) * 60 + written.second : Nat)
      some ⟨date.number * 86400 + clock - zone * 60, written.milliseconds, zone, isLong⟩
    else none
  | none => none

/-- The zone of a short form: a letter, or hours and minutes with a sign. -/
def shortZone? : Bytes → Option (Int × Int)
  | [0x5A] => some (0, 0)
  | sign :: rest =>
    match pairs? 2 rest with
    | some ([hours, minutes], []) =>
      if sign = 0x2B then some (hours, minutes)
      else if sign = 0x2D then some (-(hours : Int), minutes)
      else none
    | _ => none
  | [] => none

/-- The numbers of a short form. The seconds may be missing before the letter of the zone. -/
def short? (bytes : Bytes) : Option (Nat × Written) :=
  match pairs? 5 bytes with
  | some ([year, month, day, hour, minute], rest) =>
    let (second?, rest) :=
      match rest with
      | high :: low :: rest => (twoDigits? high low, rest)
      | rest => (some 0, rest)
    match second?, shortZone? rest with
    | some second, some (zoneHours, zoneMinutes) =>
      let written : Written := ⟨month, day, hour, minute, second, 0, zoneHours, zoneMinutes⟩
      if written.isPlausible then some (year, written) else none
    | _, _ => none
  | _ => none

/-- The digits of a fraction, at most three of them, as milliseconds. -/
def fraction? : (scale : Nat) → Bytes → Option Nat
  | _, [] => some 0
  | scale, byte :: rest =>
    if 0x30 ≤ byte && byte ≤ 0x39 && scale ≠ 0 then
      match fraction? (scale / 10) rest with
      | some value => some ((byte.toNat - 0x30) * scale + value)
      | none => none
    else none

/-- What may follow the minutes of a long form: seconds with or without a fraction, or nothing, and
the letter of the zone. -/
def longEnd? (bytes : Bytes) : Option (Nat × Nat) :=
  match bytes.getLast? with
  | some 0x5A =>
    match bytes.dropLast with
    | [] => some (0, 0)
    | high :: low :: rest =>
      match twoDigits? high low with
      | none => none
      | some second =>
        match rest with
        | [] => some (second, 0)
        | 0x2E :: digits => (fraction? 100 digits).map fun value => (second, value)
        | _ => none
    | _ => none
  | _ => none

/-- The numbers of a long form. -/
def long? (bytes : Bytes) : Option (Nat × Written) :=
  match pairs? 6 bytes with
  | some ([century, year, month, day, hour, minute], rest) =>
    match longEnd? rest with
    | some (second, milliseconds) =>
      let written : Written := ⟨month, day, hour, minute, second, milliseconds, 0, 0⟩
      if written.isPlausible then some (century * 100 + year, written) else none
    | none => none
  | _ => none

/-- Whether all bytes of a short form are visible characters. -/
def isVisible (bytes : Bytes) : Bool :=
  bytes.all fun byte => 0x20 ≤ byte && byte ≤ 0x7F

/-- The time at the front. A short form names years from 1950 to 2049. -/
def read? (bytes : Bytes) : Option (CertificateTime × Bytes) :=
  match Der.element? bytes with
  | none => none
  | some (element, rest) =>
    if element.tag.number = Der.shortTime then
      match (if isVisible element.content then short? element.content else none) with
      | some (year, written) =>
        let full : Int := if 50 ≤ year then 1900 + year else 2000 + year
        (written.time? full false).map (·, rest)
      | none => none
    else if element.tag.number = Der.longTime then
      match (if isVisible element.content then long? element.content else none) with
      | some (year, written) => (written.time? year true).map (·, rest)
      | none => none
    else none

/-! ### Showing -/

/-- A number in at least two digits, filled up with the given character. -/
def twoPlaces (filling : Char) (value : Nat) : List Char :=
  let digits := Nat.toDigits 10 value
  if digits.length < 2 then filling :: digits else digits

/-- A year without filling. -/
def yearText (year : Int) : List Char :=
  if year < 0 then '-' :: Nat.toDigits 10 year.natAbs else Nat.toDigits 10 year.toNat

/-- A time in its own zone. -/
def text (time : CertificateTime) : String :=
  let clock := time.seconds + time.zone * 60
  let date := Calendar.Day.ofNumber (clock / 86400)
  let second := (clock % 86400).toNat
  let zone := time.zone.natAbs
  (Calendar.monthNames[date.month - 1]?).getD "" ++
    String.ofList (' ' :: (twoPlaces ' ' date.day ++ ' ' :: (twoPlaces '0' (second / 3600) ++
      ':' :: (twoPlaces '0' (second / 60 % 60) ++ ':' :: (twoPlaces '0' (second % 60) ++
      ' ' :: (yearText date.year ++ ' ' :: (if time.zone < 0 then '-' else '+') ::
        (twoPlaces '0' (zone / 60) ++ ':' :: twoPlaces '0' (zone % 60))))))))

end CertificateTime

end SignedPurchase
