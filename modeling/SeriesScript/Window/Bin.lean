import SeriesScript.Reduction
import SeriesScript.Series.Point

/-!
# Bins

A bin groups points under one timestamp, before they are reduced to one value. Trailing windows give
every point a bin of its own, with the points less than one window before it.
-/
namespace SeriesScript

structure Bin where
  timestamp : Timestamp
  label : String
  parents : List Point
deriving Inhabited

namespace Bin

/-- The point that a bin is reduced to; an empty bin without a value takes the fallback. -/
def reduce? (r : Reduction) (fallback : Option Number) (bin : Bin) : Option Point :=
  match r.reduce (bin.parents.map (·.value)), fallback with
  | some value, _ => some ⟨bin.timestamp, value, bin.label⟩
  | none, some value => some ⟨bin.timestamp, value, bin.label⟩
  | none, none => none

def reduceAll (r : Reduction) (fallback : Option Number) (bins : List Bin) : List Point :=
  bins.filterMap (reduce? r fallback)

end Bin

/-! ## Trailing windows -/

namespace Window

/-- The points of `kept` and `current` that `current` still sees. -/
def stillSeen (window : Duration) (kept : List Point) (current : Point) : List Point :=
  (kept ++ [current]).dropWhile fun p =>
    window.nanos ≤ current.timestamp.instant - p.timestamp.instant

def trailingFrom (window : Duration) (kept : List Point) : List Point → List Bin
  | [] => []
  | p :: rest =>
    let seen := stillSeen window kept p
    ⟨p.timestamp, p.label, seen⟩ :: trailingFrom window seen rest

/-- One bin for each point, oldest first. -/
def trailing (window : Duration) (points : List Point) : List Bin := trailingFrom window [] points

end Window

end SeriesScript
