import SeriesScript.Proofs.Series.Marks
import SeriesScript.Proofs.Window.Partition

/-!
# Boundaries of bins

Fixed windows are laid end to end, and the point of a bin stands one nanosecond before the end of
its window, on the clock of the day. All boundaries of a call have one offset, that of the earliest
time to be covered.
-/
namespace SeriesScript

namespace Timestamp

variable {t u : Timestamp}

theorem eq_of_checked? (h : t.checked? = some u) : u = t := by
  rw [checked?] at h
  split at h <;> cases h
  rfl

theorem offset_of_checked? (h : t.checked? = some u) : u.offset = t.offset := by
  rw [eq_of_checked? h]

theorem offset_of_ofClock? {clock offset : Int} (h : ofClock? clock offset = some u) :
    u.offset = offset := offset_of_checked? h

theorem offset_of_onDay? {day : Int} (h : t.onDay? day = some u) : u.offset = t.offset := by
  rw [onDay?] at h
  split at h
  · exact offset_of_ofClock? h
  · cases h

theorem offset_of_plusMonths? {count : Int} (h : t.plusMonths? count = some u) :
    u.offset = t.offset := by
  rw [plusMonths?] at h
  split at h
  · cases h
    rfl
  · exact offset_of_onDay? h

theorem offset_of_plusDays? {count : Int} (h : t.plusDays? count = some u) :
    u.offset = t.offset := by
  rw [plusDays?] at h
  split at h
  · cases h
    rfl
  · exact offset_of_onDay? h

end Timestamp

namespace Window

variable {window : TimeAmount} {prefs : Preferences} {hardStart : Option Timestamp}
  {latest start stop boundary : Timestamp} {laid : List Tile} {points : List Point}

theorem offset_of_advance? (h : advance? window start = some stop) :
    stop.offset = start.offset := by
  cases window with
  | duration d =>
    have later : stop.offset = (start.plus d.nanos).offset := Timestamp.offset_of_checked? h
    exact later
  | period p =>
    rw [advance?] at h
    split at h
    · rename_i shifted months
      exact (Timestamp.offset_of_plusDays? h).trans (Timestamp.offset_of_plusMonths? months)
    · cases h

@[simp] theorem beginning_offset (window : TimeAmount) (first : Calendar.Weekday) (t : Timestamp) :
    (beginning window first t).offset = t.offset := by
  rw [beginning]
  split
  · rename_i start h
    exact Timestamp.offset_of_ofClock? h
  · rfl

/-- The ends of the windows that are laid end to end from `start` on, as far as they begin no later
than `latest`. -/
inductive Ends (window : TimeAmount) (latest : Timestamp) : Timestamp → Timestamp → Prop
  | first {start stop : Timestamp} (before : start.instant ≤ latest.instant)
      (advanced : advance? window start = some stop) : Ends window latest start stop
  | later {start next stop : Timestamp} (before : start.instant ≤ latest.instant)
      (advanced : advance? window start = some next) (rest : Ends window latest next stop) :
      Ends window latest start stop

theorem Ends.offset_eq (h : Ends window latest start stop) : stop.offset = start.offset := by
  induction h with
  | first _ advanced => exact offset_of_advance? advanced
  | later _ advanced _ ih => exact ih.trans (offset_of_advance? advanced)

theorem ends_of_mem_tiles {tile : Tile} (h : tiles window prefs latest start = .ok laid)
    (mem : tile ∈ laid) : Ends window latest start tile.stop := by
  fun_induction tiles window prefs latest start generalizing laid with
  | case2 start before stop advanced _ _ rest ok ih =>
    cases h
    rcases List.mem_cons.mp mem with rfl | mem
    · exact .first before advanced
    · exact .later before advanced (ih ok mem)
  | case6 =>
    cases h
    cases mem
  | _ => cases h

/-- A time at which a fixed window ends: the windows begin with the calendar window that holds the
earliest time to be covered, and the last one of them holds the latest. -/
def Boundary (window : TimeAmount) (prefs : Preferences) (hardStart : Option Timestamp)
    (points : List Point) (t : Timestamp) : Prop :=
  ∃ earliest, earliest? prefs hardStart points = some earliest ∧
    Ends window (Window.latest prefs points earliest)
      (beginning window prefs.firstDayOfWeek earliest) t

/-- The bins of fixed windows are stamped right before boundaries, and have no label. -/
theorem mark_of_mem_fixed {bins : List Bin} {bin : Bin}
    (h : fixed window prefs hardStart points = .ok bins) (mem : bin ∈ bins) :
    ∃ boundary, Boundary window prefs hardStart points boundary ∧
      bin.mark = (prefs.stamp boundary, "") := by
  rcases tiles_of_fixed h with ⟨-, rfl⟩ | ⟨earliest, laid, found, ok, rfl⟩
  · cases mem
  · obtain ⟨tile, here, marked⟩ := Series.mark_of_mem_fill mem
    exact ⟨tile.stop, ⟨earliest, found, ends_of_mem_tiles ok here⟩, marked⟩

/-- If the points and the hard start have one offset, so have the boundaries. -/
theorem Boundary.offset_eq {offset : Int} (h : Boundary window prefs hardStart points boundary)
    (of_points : ∀ p ∈ points, p.timestamp.offset = offset)
    (of_hardStart : ∀ t, hardStart = some t → t.offset = offset) : boundary.offset = offset := by
  obtain ⟨earliest, found, ends⟩ := h
  have covered : earliest.offset = offset := by
    rcases earliest?_mem found with ⟨p, mem, rfl⟩ | ⟨t, given, rfl⟩
    · exact of_points p mem
    · exact of_hardStart t given
  rw [ends.offset_eq, beginning_offset, covered]

end Window

end SeriesScript
