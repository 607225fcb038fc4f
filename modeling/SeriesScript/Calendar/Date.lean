/-!
# Dates of the Gregorian calendar

Days count from 1 January 1970 and months from January of the year 0, both without bound in either
direction. The calendar extends backwards beyond its introduction, and year 0 precedes year 1. The
month of a day and the first day of a month determine each other: a day lies in month `m` exactly
when the first day of `m` is at most the day and the first day of `m + 1` is beyond it.
-/
namespace SeriesScript.Calendar

def isLeap (year : Int) : Bool := year % 4 == 0 && (year % 100 != 0 || year % 400 == 0)

/-- The day number of 1 January. -/
def yearStart (year : Int) : Int :=
  365 * (year - 1) + (year - 1) / 4 - (year - 1) / 100 + (year - 1) / 400 - 719162

/-- The year of a day. The mean year gives it but for one year more or less. -/
def yearOf (day : Int) : Int :=
  let mean := (day + 719162) * 400 / 146097 + 1
  if day < yearStart mean then mean - 1
  else if yearStart (mean + 1) ≤ day then mean + 1
  else mean

/-- The days of a year before one of its months, which count from 0, in a common year. -/
def commonDaysBefore : Nat → Int
  | 0 => 0
  | 1 => 31
  | 2 => 59
  | 3 => 90
  | 4 => 120
  | 5 => 151
  | 6 => 181
  | 7 => 212
  | 8 => 243
  | 9 => 273
  | 10 => 304
  | _ => 334

def daysBefore (leap : Bool) (month : Nat) : Int :=
  commonDaysBefore month + (if leap ∧ 2 ≤ month then 1 else 0)

def monthStart (month : Int) : Int :=
  yearStart (month / 12) + daysBefore (isLeap (month / 12)) (month % 12).toNat

/-- The month of the year, from 0, that holds a day of the year, from 0. -/
def monthInYear (leap : Bool) (day : Int) : Nat :=
  let shift := if leap then 1 else 0
  if day < 31 then 0
  else if day < 59 + shift then 1
  else if day < 90 + shift then 2
  else if day < 120 + shift then 3
  else if day < 151 + shift then 4
  else if day < 181 + shift then 5
  else if day < 212 + shift then 6
  else if day < 243 + shift then 7
  else if day < 273 + shift then 8
  else if day < 304 + shift then 9
  else if day < 334 + shift then 10
  else 11

def monthOf (day : Int) : Int :=
  12 * yearOf day + monthInYear (isLeap (yearOf day)) (day - yearStart (yearOf day))

def monthLength (month : Int) : Int := monthStart (month + 1) - monthStart month

/-- The day of the month, from 0. -/
def dayOfMonth (day : Int) : Int := day - monthStart (monthOf day)

/-- The day with the same place in a month some months later, or the last day of a shorter month. -/
def shiftMonths (day count : Int) : Int :=
  monthStart (monthOf day + count) + min (dayOfMonth day) (monthLength (monthOf day + count) - 1)

/-- The first day that has a date, in the year -262143. -/
def firstDay : Int := yearStart (-262143)

/-- The last day that has a date, in the year 262142. -/
def lastDay : Int := yearStart 262143 - 1

def hasDate (day : Int) : Bool := firstDay ≤ day && day ≤ lastDay

/-- The day of a date whose month and day count from 1, if there is such a date. -/
def dayOfDate? (year : Int) (month day : Nat) : Option Int :=
  let index := 12 * year + (month - 1 : Int)
  if 1 ≤ month ∧ month ≤ 12 ∧ 1 ≤ day ∧ (day : Int) ≤ monthLength index ∧
      -262143 ≤ year ∧ year ≤ 262142 then
    some (monthStart index + (day - 1 : Int))
  else none

inductive Weekday where
  | monday
  | tuesday
  | wednesday
  | thursday
  | friday
  | saturday
  | sunday
deriving DecidableEq, Inhabited

namespace Weekday

def all : List Weekday := [monday, tuesday, wednesday, thursday, friday, saturday, sunday]

/-- The days since the Monday before. -/
def index : Weekday → Int
  | monday => 0
  | tuesday => 1
  | wednesday => 2
  | thursday => 3
  | friday => 4
  | saturday => 5
  | sunday => 6

def name : Weekday → String
  | monday => "monday"
  | tuesday => "tuesday"
  | wednesday => "wednesday"
  | thursday => "thursday"
  | friday => "friday"
  | saturday => "saturday"
  | sunday => "sunday"

def abbreviation : Weekday → String
  | monday => "Mon"
  | tuesday => "Tue"
  | wednesday => "Wed"
  | thursday => "Thu"
  | friday => "Fri"
  | saturday => "Sat"
  | sunday => "Sun"

/-- The weekday of a name or of its first three letters, in letters of any case. -/
def ofName? (text : String) : Option Weekday :=
  let word := text.toList.map Char.toLower
  all.find? fun w => word == w.name.toList || word == w.name.toList.take 3

end Weekday

/-- The index of a day's weekday; day 0 is a Thursday. -/
def weekdayIndex (day : Int) : Int := (day + 3) % 7

def weekStart (first : Weekday) (day : Int) : Int := day - (weekdayIndex day - first.index) % 7

end SeriesScript.Calendar
