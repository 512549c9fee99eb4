import PersonalFeed.Number.Scalar
import PersonalFeed.Time.Date

/-!
Moments with a time zone. A moment is counted in microseconds since the start of 1970 in universal
time; the zone only matters for how it is written. Dates run from year 1 to year 9999, in the
moment's own zone.
-/

set_option autoImplicit false

namespace PersonalFeed

/-- A moment, with the distance of its zone from universal time. -/
structure Timestamp where
  /-- Microseconds since the start of 1970 in universal time. -/
  micros : Int
  /-- Microseconds by which the zone is ahead of universal time. -/
  offset : Int
  deriving DecidableEq, Repr, Inhabited

namespace Timestamp

def microsPerDay : Int := 86400000000

def epochDay : Int := Time.Date.number ⟨1970, 1, 1⟩

def clock (t : Timestamp) : Int := t.micros + t.offset + epochDay * microsPerDay

def inCalendar (t : Timestamp) : Bool :=
  0 ≤ t.clock && t.clock < Time.calendarDays * microsPerDay

def ofClock (clock offset : Int) : Timestamp := ⟨clock - epochDay * microsPerDay - offset, offset⟩

@[simp] theorem clock_ofClock (clock offset : Int) : (ofClock clock offset).clock = clock := by
  simp only [Timestamp.clock, ofClock]
  omega

def inUniversalTime? (t : Timestamp) : Option Timestamp :=
  let moved : Timestamp := { t with offset := 0 }
  if moved.inCalendar then some moved else none

/-- The moment that a store without zones makes of this one: the reading of its clock, taken in
universal time. -/
def withoutZone (t : Timestamp) : Timestamp := ofClock t.clock 0

def daysBefore? (t : Timestamp) (days : Int) : Option Timestamp :=
  let moved : Timestamp := { t with micros := t.micros - days * microsPerDay }
  if days.natAbs ≤ 999999999 ∧ moved.inCalendar then some moved else none

variable {R : Type} [Scalar R]

def seconds (t : Timestamp) : R := Scalar.ratio t.micros 1000000

def secondsUntil (earlier later : Timestamp) : R :=
  Scalar.ratio (later.micros - earlier.micros) 1000000

def hoursUntil (earlier later : Timestamp) : R :=
  (earlier.secondsUntil later : R) / Scalar.ofInt 3600

def daysUntil (earlier later : Timestamp) : R :=
  (earlier.secondsUntil later : R) / Scalar.ofInt 86400

end Timestamp

end PersonalFeed
