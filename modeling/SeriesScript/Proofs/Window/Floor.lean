import SeriesScript.Proofs.Calendar.Months
import SeriesScript.Window.Anchor

/-!
# Floors of local times

The unit that holds a local time does not start after it.
-/
namespace SeriesScript.Window

open Calendar

namespace Anchor

theorem monthsFloor_le {count : Int} (h : count ≠ 0) (day : Int) : monthsFloor count day ≤ day :=
  monthStart_le_iff.mpr (Int.ediv_mul_le _ h)

theorem weekStart_le (first : Weekday) (day : Int) : weekStart first day ≤ day := by
  rw [weekStart]
  omega

theorem dayFloor_le (anchor : Anchor) (first : Weekday) (day : Int) :
    dayFloor first day anchor ≤ day := by
  cases anchor with
  | hour | day => exact le_rfl
  | week =>
    simp only [dayFloor]
    split
    · exact weekStart_le first day
    · exact le_rfl
  | month | quarter | halfYear | year => exact monthsFloor_le (by decide) day

theorem floor_le (anchor : Anchor) (first : Weekday) (clock : Int) :
    anchor.floor first clock ≤ clock := by
  have days : dayFloor first (clock / nanosPerDay) anchor * nanosPerDay ≤ clock :=
    (Int.mul_le_mul_of_nonneg_right (dayFloor_le anchor first _) (by decide)).trans
      (Int.ediv_mul_le clock (by decide))
  cases anchor with
  | hour => exact Int.ediv_mul_le clock (by decide)
  | _ => exact days

end Anchor

theorem beginning_le (window : TimeAmount) (first : Weekday) (t : Timestamp) :
    (beginning window first t).instant ≤ t.instant := by
  rw [beginning]
  split
  · rename_i start h
    unfold Timestamp.ofClock? Timestamp.checked? at h
    split at h
    · cases h
      have := (Anchor.ofWindow window).floor_le first t.clock
      simp only [Timestamp.ofClock, Timestamp.clock] at *
      omega
    · cases h
  · exact le_rfl

end SeriesScript.Window
