import SeriesScript.Calendar.Timestamp
import SeriesScript.Number

/-!
# Series

A series is a list of points of one kind. Each point has a timestamp, a value and a label, which may
be empty.
-/
namespace SeriesScript

inductive Kind where
  | numerical
  | categorical
  | time
deriving DecidableEq, Inhabited

namespace Kind

def all : List Kind := [numerical, categorical, time]

/-- The name used in messages. -/
def name : Kind → String
  | numerical => "Numerical"
  | categorical => "Categorical"
  | time => "Time"

/-- The word used in files. -/
def keyword : Kind → String
  | numerical => "numerical"
  | categorical => "categorical"
  | time => "time"

def ofKeyword? (word : String) : Option Kind := all.find? (·.keyword == word)

end Kind

structure Point where
  timestamp : Timestamp
  value : Number
  label : String
deriving Inhabited

namespace Point

def same (p q : Point) : Bool :=
  p.timestamp.instant == q.timestamp.instant && p.value == q.value && p.label == q.label

def atMost (p q : Point) : Bool := p.timestamp.atMost q.timestamp

def withValue (p : Point) (value : Number) : Point := { p with value }

end Point

def samePoints : List Point → List Point → Bool
  | [], [] => true
  | p :: ps, q :: qs => p.same q && samePoints ps qs
  | _, _ => false

structure Series where
  points : List Point
  kind : Kind
deriving Inhabited

namespace Series

def earliest? (s : Series) : Option Timestamp := s.points.head?.map (·.timestamp)

def mapValues (s : Series) (f : Number → Number) (kind : Kind) : Series :=
  ⟨s.points.map fun p => p.withValue (f p.value), kind⟩

end Series

end SeriesScript
