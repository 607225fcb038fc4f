import SeriesScript.Calendar.Date
import SeriesScript.Time.Duration

/-!
# Timestamps

A timestamp is an instant, in nanoseconds since the start of 1970, seen from a place with a fixed
offset of its clocks, in seconds. Timestamps compare by instant alone. Only instants whose date
lies in the calendar are reached by arithmetic.
-/
namespace SeriesScript

def nanosPerHour : Int := 3600000000000

def nanosPerDay : Int := 86400000000000

structure Timestamp where
  instant : Int
  offset : Int
deriving DecidableEq, Inhabited

namespace Timestamp

/-- Whether an instant has a date in the calendar, on a clock without offset. -/
def representable (instant : Int) : Bool :=
  Calendar.firstDay * nanosPerDay ≤ instant && instant < (Calendar.lastDay + 1) * nanosPerDay

/-- Nanoseconds on the local clock, counted as if the clock had no offset. -/
def clock (t : Timestamp) : Int := t.instant + t.offset * nanosPerSecond

/-- The timestamp at which clocks with the given offset show a time. -/
def ofClock (clock offset : Int) : Timestamp := ⟨clock - offset * nanosPerSecond, offset⟩

def checked? (t : Timestamp) : Option Timestamp := if representable t.instant then some t else none

def ofClock? (clock offset : Int) : Option Timestamp := (ofClock clock offset).checked?

def day (t : Timestamp) : Int := t.clock / nanosPerDay

def timeOfDay (t : Timestamp) : Int := t.clock % nanosPerDay

def plus (t : Timestamp) (nanos : Int) : Timestamp := ⟨t.instant + nanos, t.offset⟩

def plus? (t : Timestamp) (nanos : Int) : Option Timestamp := (t.plus nanos).checked?

/-- The same local time on another day, if that day has a date. -/
def onDay? (t : Timestamp) (day : Int) : Option Timestamp :=
  if Calendar.hasDate day then ofClock? (day * nanosPerDay + t.timeOfDay) t.offset else none

/-- The same local time some months later, on the last day of a month that is too short. -/
def plusMonths? (t : Timestamp) (count : Int) : Option Timestamp :=
  if count = 0 then some t else t.onDay? (Calendar.shiftMonths t.day count)

def plusDays? (t : Timestamp) (count : Int) : Option Timestamp :=
  if count = 0 then some t else t.onDay? (t.day + count)

def atMost (a b : Timestamp) : Bool := a.instant ≤ b.instant

/-- The earlier of two timestamps, the first one if they are the same instant. -/
def earlier (a b : Timestamp) : Timestamp := if a.instant ≤ b.instant then a else b

/-- The later of two timestamps, the second one if they are the same instant. -/
def later (a b : Timestamp) : Timestamp := if a.instant ≤ b.instant then b else a

end Timestamp

end SeriesScript
