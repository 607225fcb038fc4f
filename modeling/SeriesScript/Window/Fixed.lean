import SeriesScript.ScriptError
import SeriesScript.Window.Anchor
import SeriesScript.Window.Bin

/-!
# Fixed windows

Windows of one length are laid end to end, from the calendar window that holds the earliest time to
the one that holds the latest. Points before the start of the day count towards the day before:
windows are laid on a clock set back by the start of the day, and a bin is stamped with the last
nanosecond of its window on the real clock. The windows depend on the points only through the first
and the last of them; then each window takes the points before its end that no earlier one took.
-/
namespace SeriesScript.Window

structure Preferences where
  firstDayOfWeek : Calendar.Weekday
  startOfDay : Duration
  /-- Windows reach at least up to this time. -/
  endTime : Option Timestamp
deriving Inhabited

namespace Preferences

def default : Preferences := ⟨.monday, .zero, none⟩

/-- A timestamp on the clock of the windows. -/
def shift (prefs : Preferences) (t : Timestamp) : Timestamp := t.plus (-prefs.startOfDay.nanos)

/-- The last nanosecond of a window on the real clock. -/
def stamp (prefs : Preferences) (stop : Timestamp) : Timestamp :=
  stop.plus (prefs.startOfDay.nanos - 1)

end Preferences

/-- A window on the shifted clock: its start, and the start of the next one. -/
structure Tile where
  start : Timestamp
  stop : Timestamp
deriving DecidableEq, Inhabited

/-- The windows from `start` up to the one that holds `latest`. -/
def tiles (window : TimeAmount) (prefs : Preferences) (latest start : Timestamp) :
    Except ScriptError (List Tile) :=
  if _before : start.instant ≤ latest.instant then
    match advance? window start with
    | none => .error (.invalidArgument .windowOutOfRange)
    | some stop =>
      if _forward : start.instant < stop.instant then
        if Timestamp.representable (prefs.stamp stop).instant then
          match tiles window prefs latest stop with
          | .ok rest => .ok (⟨start, stop⟩ :: rest)
          | .error e => .error e
        else .error .calendarExceeded
      else .error (.invalidArgument .windowNotPositive)
  else .ok []
termination_by (latest.instant + 1 - start.instant).toNat
decreasing_by omega

/-- The bins of the windows, filled with points from the head of a list. -/
def fill (prefs : Preferences) : List Tile → List Point → List Bin
  | [], _ => []
  | tile :: rest, points =>
    let inside (p : Point) : Bool := (prefs.shift p.timestamp).instant < tile.stop.instant
    ⟨prefs.stamp tile.stop, "", points.takeWhile inside⟩ ::
      fill prefs rest (points.dropWhile inside)

/-- The earliest time to be covered, on the shifted clock: that of the first point, or the hard
start if it is earlier. -/
def earliest? (prefs : Preferences) (hardStart : Option Timestamp) (points : List Point) :
    Option Timestamp :=
  match points.head?.map (fun p => prefs.shift p.timestamp), hardStart.map prefs.shift with
  | some a, some b => some (a.earlier b)
  | some a, none => some a
  | none, b => b

/-- The latest time to be covered: that of the last point on the shifted clock, or the end time if
it is later; without both, the earliest time. -/
def latest (prefs : Preferences) (points : List Point) (earliest : Timestamp) : Timestamp :=
  match points.getLast?.map (fun p => prefs.shift p.timestamp), prefs.endTime with
  | some a, some b => a.later b
  | some a, none => a
  | none, some b => b
  | none, none => earliest

def positiveLength (window : TimeAmount) : Except ScriptError Duration :=
  match window.resolve with
  | .error fault => .error (.invalidArgument fault)
  | .ok d => if d.isPositive then .ok d else .error (.invalidArgument .windowNotPositive)

/-- The bins of points, oldest first, for a window of positive length. The earliest time has to lie
in the calendar, on its own clock too. -/
def fixed (window : TimeAmount) (prefs : Preferences) (hardStart : Option Timestamp)
    (points : List Point) : Except ScriptError (List Bin) :=
  match earliest? prefs hardStart points with
  | none => .ok []
  | some earliest =>
    if Timestamp.representable earliest.instant && Calendar.hasDate earliest.day then
      match tiles window prefs (latest prefs points earliest)
          (beginning window prefs.firstDayOfWeek earliest) with
      | .ok tiles => .ok (fill prefs tiles points)
      | .error e => .error e
    else .error .calendarExceeded

end SeriesScript.Window
