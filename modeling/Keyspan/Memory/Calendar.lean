import Keyspan.Duration.Basic

/-!
# Calendar dates

Days are counted from the first of January 1970, in both directions, in the calendar that is in
use today, carried back. Dates exist from the year 1 to the year 9999; `CalendarDate.ofDay` is
where a day outside of them becomes a failure. A day that is so far away that no duration reaches
it fails as that duration does.

* `CalendarDate.ofDay`: the date of a day.
* `CalendarDate.dayOfMillis`: the day that a number of milliseconds lies in.
* `Instant.ofMicros`: the date and the time of a number of microseconds.

A year is taken to begin in March, so that the leap day is its last; four hundred years always
have the same number of days. `ClockTime` is the time of day, in microseconds.
-/

namespace Keyspan

structure CalendarDate where
  year : Nat
  month : Nat
  day : Nat
  deriving DecidableEq

namespace CalendarDate

/-- The first of January of the year 1. -/
def firstDay : Int := -719162

/-- The last of December of the year 9999. -/
def lastDay : Int := 2932896

/-- The days from the first of March of the year 0 to the first of January 1970. -/
def marchOffset : Int := 719468

/-- The days of four hundred years. -/
def daysPerEra : Nat := 146097

/-- The date of the day that is `n` days after the first of March of the year 0. -/
def ofMarchDay (n : Nat) : CalendarDate :=
  let era := n / daysPerEra
  let dayOfEra := n % daysPerEra
  let yearOfEra :=
    (dayOfEra - dayOfEra / 1460 + dayOfEra / 36524 - dayOfEra / 146096) / 365
  let dayOfYear := dayOfEra - (365 * yearOfEra + yearOfEra / 4 - yearOfEra / 100)
  let month := (5 * dayOfYear + 2) / 153
  { year := era * 400 + yearOfEra + (if month < 10 then 0 else 1)
    month := if month < 10 then month + 3 else month - 9
    day := dayOfYear - (153 * month + 2) / 5 + 1 }

/-- **The date of a day.** The day has to be within a duration of the origin, and then within the
calendar. -/
def ofDay (n : Int) : Except Failure CalendarDate :=
  match Duration.ofMicros (n * microsPerDay) with
  | .error f => .error f
  | .ok _ =>
    if firstDay ≤ n ∧ n ≤ lastDay then .ok (ofMarchDay (n + marchOffset).toNat)
    else .error .dateOutOfRange

def millisPerDay : Nat := 86400000

/-- **The day that a number of milliseconds lies in.** The quotient is taken as a floating-point
number, so a millisecond far outside of the calendar may fall into the day next to its own. -/
def dayOfMillis (n : Int) : Int :=
  match (Double.ofInt? n).bind fun x => (x.divNat millisPerDay).floor? with
  | some day => day
  | none => n / (millisPerDay : Int)

end CalendarDate

/-- A time of day, in microseconds since midnight. -/
structure ClockTime where
  micros : Nat
  deriving DecidableEq

namespace ClockTime

/-- The hour, the minute, and behind them the second and its microseconds as far as they are
not zero. -/
def parts (t : ClockTime) : List Nat :=
  let total := t.micros / 1000000
  let fraction := t.micros % 1000000
  let second := total % 60
  [total / 3600, total / 60 % 60] ++
    (if fraction ≠ 0 then [second, fraction] else if second ≠ 0 then [second] else [])

end ClockTime

structure Instant where
  date : CalendarDate
  time : ClockTime
  deriving DecidableEq

/-- **The instant that lies a number of microseconds after the first of January 1970.** The span
has to be a duration, and the date one of the calendar. -/
def Instant.ofMicros (micros : Int) : Except Failure Instant := do
  let span ← Duration.ofMicros micros
  let date ← CalendarDate.ofDay (span.micros / microsPerDay)
  return ⟨date, ⟨(span.micros % microsPerDay).toNat⟩⟩

end Keyspan
