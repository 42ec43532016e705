/-
**Instants.**

An instant is a count of milliseconds since the start of 1970. The calendar in use reaches some two
hundred and sixty thousand years in both directions, and a count outside it is no instant.

* `Instant.ofMilliseconds?` gives the instant of a count as sent;
* `Instant.seconds` is the last whole second not after it;
* `Moment` is what a clock shows, which is finer than any count that is sent.
-/

namespace SignedPurchase

/-- A moment in time, in milliseconds since the start of 1970. -/
structure Instant where
  milliseconds : Int
  deriving DecidableEq, Repr

namespace Instant

/-- The first instant of the calendar. -/
def first : Int := -8334601228800000

/-- The last instant of the calendar. -/
def last : Int := 8210266876799999

/-- The instant of a whole second. -/
def ofSeconds (seconds : Int) : Instant := ⟨seconds * 1000⟩

/-- The instant of a count of milliseconds within the calendar. -/
def ofMilliseconds? (count : Int64) : Option Instant :=
  if first ≤ count.toInt ∧ count.toInt ≤ last then some ⟨count.toInt⟩ else none

/-- The last whole second not after the instant. -/
def seconds (instant : Instant) : Int :=
  instant.milliseconds / 1000

end Instant

/-- What a clock shows: a whole second since the start of 1970 and the nanoseconds after it, which in a
leap second go on beyond a thousand million. -/
structure Moment where
  seconds : Int
  nanoseconds : Nat
  deriving DecidableEq, Repr

namespace Moment

/-- A moment is not after another when its second is earlier, or the same and no more nanoseconds have
gone by. -/
def IsAtMost (first last : Moment) : Prop :=
  first.seconds < last.seconds ∨
    first.seconds = last.seconds ∧ first.nanoseconds ≤ last.nanoseconds

instance : LE Moment := ⟨IsAtMost⟩

instance (first last : Moment) : Decidable (first ≤ last) :=
  inferInstanceAs (Decidable (first.seconds < last.seconds ∨
    first.seconds = last.seconds ∧ first.nanoseconds ≤ last.nanoseconds))

end Moment

/-- The moment of an instant. -/
def Instant.moment (instant : Instant) : Moment :=
  ⟨instant.seconds, (instant.milliseconds % 1000).toNat * 1000000⟩

instance : Coe Instant Moment := ⟨Instant.moment⟩

end SignedPurchase
