/-!
# Units of time

The units a script can name. A unit is written as its keyword, in capital letters.
-/
namespace SeriesScript

inductive TimeUnit where
  | second
  | minute
  | hour
  | day
  | week
  | month
  | year
deriving DecidableEq, Inhabited

namespace TimeUnit

def all : List TimeUnit := [second, minute, hour, day, week, month, year]

def keyword : TimeUnit → String
  | second => "SECOND"
  | minute => "MINUTE"
  | hour => "HOUR"
  | day => "DAY"
  | week => "WEEK"
  | month => "MONTH"
  | year => "YEAR"

/-- The name used in messages about tokens. -/
def name : TimeUnit → String
  | second => "Second"
  | minute => "Minute"
  | hour => "Hour"
  | day => "Day"
  | week => "Week"
  | month => "Month"
  | year => "Year"

def ofKeyword? (word : String) : Option TimeUnit := all.find? (·.keyword == word)

theorem ofKeyword?_keyword (u : TimeUnit) : ofKeyword? u.keyword = some u := by
  cases u <;> decide

end TimeUnit

end SeriesScript
