import SeriesScript.Series.Point

/-!
# Operations on points

Points are selected by their labels. Several lists are merged by time; at one instant the points of
an earlier list come first. From each point to the next there are differences, running sums, slopes
and distances in time. Distances count whole milliseconds: two points less than a millisecond apart
are at distance zero.

The time to the next reference matches each point of a list with the first reference point at or
after it. A reference point answers one point only: of several, the last one. The place of the
reference point is found by halving, so the references have to be sorted by time.
-/
namespace SeriesScript.Series

/-- The points whose label is among the given ones, or, without `keep`, the others. -/
def select (keep : Bool) (labels : List String) (points : List Point) : List Point :=
  points.filter fun p => labels.contains p.label == keep

/-- The lists joined by taking, again and again, the earliest of their first points. -/
def merge (lists : List (List Point)) : List Point :=
  lists.foldl (fun merged points => merged.merge points Point.atMost) []

/-- The points in order of time, those of one instant in the given order. -/
def oldestFirst (points : List Point) : List Point := points.mergeSort Point.atMost

/-! ## From each point to the next -/

/-- The whole milliseconds from one point to another. -/
def elapsedMillis (a b : Point) : Int := (b.timestamp.instant - a.timestamp.instant).tdiv 1000000

/-- The seconds from one point to another, to whole milliseconds. -/
def elapsedSeconds (a b : Point) : Number :=
  .ofFloat (Float.ofInt (elapsedMillis a b) / 1000)

/-- What the first value of a series is compared with. -/
def differenceSeed : Number := .ofFloat 0

/-- Each value less the value before it, the first one less `previous`. -/
def differences (previous : Number) : List Point → List Point
  | [] => []
  | p :: rest => p.withValue (p.value - previous) :: differences p.value rest

/-- The sum of `sum` and all values up to each point. -/
def runningSums (sum : Number) : List Point → List Point
  | [] => []
  | p :: rest => p.withValue (sum + p.value) :: runningSums (sum + p.value) rest

/-- The change per `per` seconds between neighbours, at the later one. Neighbours at distance zero
have none. -/
def slopes (per : Number) : List Point → List Point
  | a :: b :: rest =>
    if elapsedMillis a b = 0 then slopes per (b :: rest)
    else b.withValue ((b.value - a.value) / elapsedSeconds a b * per) :: slopes per (b :: rest)
  | _ => []

/-- The seconds from each point to the next one, at the earlier of the two. -/
def gaps : List Point → List Point
  | a :: b :: rest => a.withValue (elapsedSeconds a b) :: gaps (b :: rest)
  | _ => []

/-! ## The next reference -/

/-- The boundary between the indices with and without a property, among `size` indices from `base`
on, of which the leading ones are expected to have it. -/
def boundary (holds : Nat → Bool) (base size : Nat) : Nat :=
  if size ≤ 1 then (if holds base then base + 1 else base)
  else
    let half := size / 2
    boundary holds (if holds (base + half) then base + half else base) (size - half)
termination_by size

/-- The index of the first reference at or after a timestamp; the number of references if there is
none. -/
def firstAtOrAfter (references : Array Point) (t : Timestamp) : Nat :=
  if references.isEmpty then 0
  else
    boundary
      (fun i =>
        match references[i]? with
        | some r => r.timestamp.instant < t.instant
        | none => false)
      0 references.size

/-- The matched points, valued by the seconds to their reference, and the indices of the references
that answered. -/
def matchReferences (references : Array Point) : List Point → List Point × List Nat
  | [] => ([], [])
  | p :: rest =>
    let (answered, taken) := matchReferences references rest
    let index := firstAtOrAfter references p.timestamp
    match references[index]? with
    | none => (answered, taken)
    | some r =>
      if taken.contains index then (answered, taken)
      else (p.withValue (elapsedSeconds p r) :: answered, index :: taken)

/-- For each point the seconds to the first reference at or after it. -/
def timeToReference (points references : List Point) : List Point :=
  (matchReferences references.toArray points).1

end SeriesScript.Series
