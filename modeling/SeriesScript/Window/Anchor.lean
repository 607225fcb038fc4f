import SeriesScript.Calendar.Timestamp
import SeriesScript.Time.Amount

/-!
# Where calendar windows begin

A window is aligned to the least calendar unit that it fits into. The unit's start at or before a
local time is its floor; from there, windows are laid out by adding their length again and again.
-/
namespace SeriesScript.Window

open Calendar

inductive Anchor where
  | hour
  | day
  | week
  | month
  | quarter
  | halfYear
  | year
deriving DecidableEq, Inhabited

namespace Anchor

def all : List Anchor := [hour, day, week, month, quarter, halfYear, year]

def name : Anchor → String
  | hour => "Hour"
  | day => "Day"
  | week => "Week"
  | month => "Month"
  | quarter => "Quarter"
  | halfYear => "HalfYear"
  | year => "Year"

def ofNanos (nanos : Int) : Anchor :=
  if nanos ≤ nanosPerHour then hour
  else if nanos ≤ nanosPerDay then day
  else if nanos ≤ 7 * nanosPerDay then week
  else if nanos ≤ 31 * nanosPerDay then month
  else if nanos ≤ 92 * nanosPerDay then quarter
  else if nanos ≤ 183 * nanosPerDay then halfYear
  else year

def ofPeriod (p : Period) : Anchor :=
  if p.atMost ⟨0, 0, 1⟩ then day
  else if p.atMost ⟨0, 0, 7⟩ then week
  else if p.atMost ⟨0, 1, 0⟩ then month
  else if p.atMost ⟨0, 3, 0⟩ then quarter
  else if p.atMost ⟨0, 6, 0⟩ then halfYear
  else year

def ofWindow : TimeAmount → Anchor
  | .duration d => ofNanos d.nanos
  | .period p => ofPeriod p

/-- The start of the span of `count` months, counted from January of year 0, that holds a day. -/
def monthsFloor (count day : Int) : Int := monthStart (monthOf day / count * count)

/-- The day on which the unit of a day starts; a week that starts before the calendar is cut to the
day itself. -/
def dayFloor (first : Weekday) (day : Int) : Anchor → Int
  | Anchor.hour => day
  | Anchor.day => day
  | week => if firstDay ≤ weekStart first day then weekStart first day else day
  | month => monthsFloor 1 day
  | quarter => monthsFloor 3 day
  | halfYear => monthsFloor 6 day
  | year => monthsFloor 12 day

def floor (anchor : Anchor) (first : Weekday) (clock : Int) : Int :=
  match anchor with
  | hour => clock / nanosPerHour * nanosPerHour
  | _ => dayFloor first (clock / nanosPerDay) anchor * nanosPerDay

end Anchor

/-- The start of the window that holds a timestamp, at the same offset; the timestamp itself, if the
start lies before the calendar. -/
def beginning (window : TimeAmount) (first : Weekday) (t : Timestamp) : Timestamp :=
  match Timestamp.ofClock? ((Anchor.ofWindow window).floor first t.clock) t.offset with
  | some start => start
  | none => t

/-- The timestamp one time amount later: months, then days, are added on the local calendar. -/
def advance? (amount : TimeAmount) (t : Timestamp) : Option Timestamp :=
  match amount with
  | .duration d => t.plus? d.nanos
  | .period p =>
    match t.plusMonths? p.totalMonths with
    | some shifted => shifted.plusDays? p.days.toInt
    | none => none

end SeriesScript.Window
