import SeriesScript.Number

/-!
# Reductions

A reduction turns the values of a group of points into one value. A script writes it as a keyword,
in capital letters.
-/
namespace SeriesScript

inductive Reduction where
  | min
  | max
  | average
  | sum
  | median
  | earliest
  | latest
  | count
deriving DecidableEq, Inhabited

namespace Reduction

def all : List Reduction := [min, max, average, sum, median, earliest, latest, count]

def keyword : Reduction → String
  | min => "MIN"
  | max => "MAX"
  | average => "AVERAGE"
  | sum => "SUM"
  | median => "MEDIAN"
  | earliest => "EARLIEST"
  | latest => "LATEST"
  | count => "COUNT"

/-- The name used in messages about tokens. -/
def name : Reduction → String
  | min => "Min"
  | max => "Max"
  | average => "Average"
  | sum => "Sum"
  | median => "Median"
  | earliest => "Earliest"
  | latest => "Latest"
  | count => "Count"

def ofKeyword? (word : String) : Option Reduction := all.find? (·.keyword == word)

theorem ofKeyword?_keyword (r : Reduction) : ofKeyword? r.keyword = some r := by
  cases r <;> decide

/-- A sum and a count have a natural value for an empty group, the others have none. -/
def keepsEmpty : Reduction → Bool
  | sum => true
  | count => true
  | _ => false

/-- The values by rank, equal ones in their given order. -/
def sorted (values : List Number) : List Number :=
  values.mergeSort (fun a b => a.rank ≤ b.rank)

/-- The middle value by rank, or half the sum of the two middle values. -/
def medianOf (values : List Number) : Number :=
  let ordered := sorted values
  let middle := ordered.length / 2
  if ordered.length % 2 = 0 then
    (ordered.getD (middle - 1) default + ordered.getD middle default) / .ofFloat 2
  else
    ordered.getD middle default

/-- The left-to-right sum; it starts at `-0`, which adds nothing to any number. -/
def total (values : List Number) : Number := values.foldl (· + ·) (.ofFloat (-0.0))

/-- The value of a group of points, oldest first; `none` for an empty group without a natural
value. -/
def reduce (r : Reduction) (values : List Number) : Option Number :=
  match values with
  | [] => if r.keepsEmpty then some (.ofFloat 0) else none
  | first :: rest =>
    match r with
    | min => some (values.foldl Number.lesser (.ofFloat (1 / 0)))
    | max => some (values.foldl Number.greater (.ofFloat (-1 / 0)))
    | average => some (total values / .ofFloat (Float.ofNat values.length))
    | sum => some (total values)
    | median => some (medianOf values)
    | earliest => some first
    | latest => some ((first :: rest).getLast (List.cons_ne_nil _ _))
    | count => some (.ofFloat (Float.ofNat values.length))

end Reduction

end SeriesScript
