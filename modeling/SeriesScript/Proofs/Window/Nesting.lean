import SeriesScript.Proofs.Window.Units

/-!
# Floors nest

A floor is the start of the unit that holds a time: the latest start that the time has reached, and
the next one is beyond the time. The starts of a coarser unit are starts of the finer units that
divide it, so it makes no difference for a floor whether a finer one was taken before. Only in the
first year of the calendar a week may begin too early, and only in the last one the next unit may
begin too late.
-/
namespace SeriesScript

namespace Timestamp

open Calendar

variable {t : Timestamp} {k count : Int}

theorem exists_plus? {nanos : Int} (low : firstDay * nanosPerDay ≤ t.instant + nanos)
    (high : t.instant + nanos < (lastDay + 1) * nanosPerDay) : ∃ u, t.plus? nanos = some u :=
  ⟨_, if_pos (representable_iff.mpr ⟨low, high⟩)⟩

theorem exists_onDay? {day : Int} (utc : t.offset = 0) (midnight : t.timeOfDay = 0)
    (low : firstDay ≤ day) (high : day ≤ lastDay) : ∃ u, t.onDay? day = some u := by
  have dated : hasDate day := by
    simp [hasDate, low, high]
  have valid : representable (ofClock (day * nanosPerDay) 0).instant := by
    have reached : firstDay * nanosPerDay ≤ day * nanosPerDay :=
      Int.mul_le_mul_of_nonneg_right low (by decide)
    have before : day * nanosPerDay < (lastDay + 1) * nanosPerDay :=
      Int.mul_lt_mul_of_pos_right (Int.lt_add_one_of_le high) (by decide)
    simpa [representable_iff, ofClock] using ⟨reached, before⟩
  refine ⟨ofClock (day * nanosPerDay) 0, ?_⟩
  rw [onDay?, if_pos dated, utc, midnight, Int.add_zero, ofClock?, checked?, if_pos valid]

theorem exists_plusDays? (utc : t.offset = 0) (start : t.clock = k * nanosPerDay)
    (low : firstDay ≤ k + count) (high : k + count ≤ lastDay) : ∃ u, t.plusDays? count = some u := by
  obtain ⟨day, midnight⟩ := day_of_midnight start
  rw [plusDays?, day]
  split
  · exact ⟨t, rfl⟩
  · exact exists_onDay? utc midnight low high

theorem exists_plusMonths? (utc : t.offset = 0) (start : t.clock = monthStart k * nanosPerDay)
    (low : firstDay ≤ monthStart (k + count)) (high : monthStart (k + count) ≤ lastDay) :
    ∃ u, t.plusMonths? count = some u := by
  obtain ⟨day, midnight⟩ := day_of_midnight start
  rw [plusMonths?, day, shiftMonths_monthStart]
  split
  · exact ⟨t, rfl⟩
  · exact exists_onDay? utc midnight low high

end Timestamp

namespace Window.Anchor

open Calendar

variable {anchor fine mid coarse : Anchor} {first : Weekday} {clock k count : Int} {t : Timestamp}

/-! ## The next unit -/

theorem exists_advance?_days {p : Period} (utc : t.offset = 0) (start : t.clock = k * nanosPerDay)
    (months : p.totalMonths = 0) (days : p.days.toInt = count) (low : firstDay ≤ k + count)
    (high : k + count ≤ lastDay) : ∃ stop, advance? (.period p) t = some stop := by
  rw [advance?, months, Timestamp.plusMonths?, if_pos rfl, days]
  exact Timestamp.exists_plusDays? utc start low high

theorem exists_advance?_months {p : Period} (utc : t.offset = 0)
    (start : t.clock = monthStart (k * count) * nanosPerDay) (months : p.totalMonths = count)
    (days : p.days.toInt = 0) (low : firstDay ≤ monthStart ((k + 1) * count))
    (high : monthStart ((k + 1) * count) ≤ lastDay) :
    ∃ stop, advance? (.period p) t = some stop := by
  rw [Int.add_mul, Int.one_mul] at low high
  obtain ⟨shifted, found⟩ := Timestamp.exists_plusMonths? utc start low high
  refine ⟨shifted, ?_⟩
  rw [advance?, months, found, days]
  exact if_pos rfl

/-- From the start of a unit, the next one can be reached if it begins within the calendar. -/
theorem exists_advance? (utc : t.offset = 0) (start : t.clock = anchor.startOf first k)
    (low : firstDay * nanosPerDay ≤ anchor.startOf first (k + 1))
    (high : anchor.startOf first (k + 1) ≤ lastDay * nanosPerDay) :
    ∃ stop, advance? anchor.unit t = some stop := by
  have dated {day : Int} (low : firstDay * nanosPerDay ≤ day * nanosPerDay)
      (high : day * nanosPerDay ≤ lastDay * nanosPerDay) : firstDay ≤ day ∧ day ≤ lastDay :=
    ⟨Int.le_of_mul_le_mul_right low (by decide), Int.le_of_mul_le_mul_right high (by decide)⟩
  cases anchor with
  | hour =>
    have same : t.instant + Duration.hour.nanos = startOf first (k + 1) .hour := by
      rw [Timestamp.clock, utc, startOf] at start
      rw [startOf, Int.add_mul, ← start]
      simp [Duration.hour, nanosPerHour]
    refine Timestamp.exists_plus? (same ▸ low) ?_
    rw [same]
    exact high.trans_lt (Int.mul_lt_mul_of_pos_right (Int.lt_succ _) (by decide))
  | day =>
    obtain ⟨low, high⟩ := dated low high
    exact exists_advance?_days utc start (by decide) (by decide) low high
  | week =>
    obtain ⟨low, high⟩ := dated low high
    have days : Int32.toInt 7 = 7 := by decide
    exact exists_advance?_days utc start (by decide) days (by omega) (by omega)
  | month =>
    obtain ⟨low, high⟩ := dated low high
    have single : t.clock = monthStart (k * 1) * nanosPerDay := by
      rw [Int.mul_one, start, startOf]
    exact exists_advance?_months utc single (by decide) (by decide) (by rwa [Int.mul_one])
      (by rwa [Int.mul_one])
  | quarter | halfYear | year =>
    obtain ⟨low, high⟩ := dated low high
    exact exists_advance?_months utc start (by decide) (by decide) low high

/-! ## Within the calendar -/

/-- A local time of the calendar that is neither of its first nor of its last year. -/
def Inner (clock : Int) : Prop :=
  yearStart (-262142) * nanosPerDay ≤ clock ∧ clock < yearStart 262142 * nanosPerDay

instance (clock : Int) : Decidable (Inner clock) := inferInstanceAs (Decidable (_ ∧ _))

theorem firstDay_le_startOf (anchor : Anchor) (first : Weekday) (inside : Inner clock) :
    firstDay * nanosPerDay ≤ anchor.startOf first (anchor.ordinal first clock) := by
  have secondYear : firstDay * nanosPerDay ≤
      anchor.startOf first (anchor.ordinal first (yearStart (-262142) * nanosPerDay)) := by
    cases anchor <;> cases first <;> decide +kernel
  exact secondYear.trans (startOf_mono first (ordinal_mono first inside.1))

theorem startOf_succ_le_lastDay (anchor : Anchor) (first : Weekday) (inside : Inner clock) :
    anchor.startOf first (anchor.ordinal first clock + 1) ≤ lastDay * nanosPerDay := by
  have lastInstant : anchor.startOf first
      (anchor.ordinal first (yearStart 262142 * nanosPerDay - 1) + 1) ≤ lastDay * nanosPerDay := by
    cases anchor <;> cases first <;> decide +kernel
  have before : anchor.ordinal first clock ≤
      anchor.ordinal first (yearStart 262142 * nanosPerDay - 1) :=
    ordinal_mono first (by have := inside.2; omega)
  exact (startOf_mono first (by omega)).trans lastInstant

theorem floor_eq_of_inner (anchor : Anchor) (first : Weekday) (inside : Inner clock) :
    anchor.floor first clock = anchor.startOf first (anchor.ordinal first clock) :=
  floor_eq_startOf (firstDay_le_startOf anchor first inside)

/-- The boundary behind a floor exists, and the time lies before it. -/
theorem exists_next (anchor : Anchor) (first : Weekday) (inside : Inner clock) :
    ∃ next, advance? anchor.unit (Timestamp.ofClock (anchor.floor first clock) 0) = some next ∧
      clock < next.clock := by
  have start : (Timestamp.ofClock (anchor.floor first clock) 0).clock =
      anchor.startOf first (anchor.ordinal first clock) := by
    rw [Timestamp.clock_ofClock, floor_eq_of_inner anchor first inside]
  have low := (firstDay_le_startOf anchor first inside).trans (startOf_lt_succ anchor first _).le
  obtain ⟨next, found⟩ := exists_advance? rfl start low (startOf_succ_le_lastDay anchor first inside)
  refine ⟨next, found, ?_⟩
  rw [clock_of_advance? start found, ← not_le, startOf_le_iff]
  omega

/-! ## Units that divide each other -/

/-- Every unit of the coarser kind begins together with one of the finer kind. -/
def Divides (first : Weekday) (fine coarse : Anchor) : Prop :=
  ∀ k, ∃ j, coarse.startOf first k = fine.startOf first j

theorem Divides.refl (anchor : Anchor) : Divides first anchor anchor := fun k => ⟨k, rfl⟩

theorem Divides.trans (inner : Divides first fine mid) (outer : Divides first mid coarse) :
    Divides first fine coarse := fun k =>
  have ⟨j, begins⟩ := outer k
  have ⟨i, begins'⟩ := inner j
  ⟨i, begins.trans begins'⟩

instance : Trans (Divides first) (Divides first) (Divides first) where
  trans := Divides.trans

/-- The start of the finer unit of a time lies in the coarser unit of the time. -/
theorem Divides.ordinal_startOf (h : Divides first fine coarse) (clock : Int) :
    coarse.ordinal first (fine.startOf first (fine.ordinal first clock)) =
      coarse.ordinal first clock := by
  obtain ⟨j, begins⟩ := h (coarse.ordinal first clock)
  have reached : fine.startOf first j ≤ clock := begins ▸ startOf_le_iff.mpr le_rfl
  refine le_antisymm (ordinal_mono first (startOf_le_iff.mpr le_rfl)) (startOf_le_iff.mp ?_)
  rw [begins]
  exact startOf_mono first (startOf_le_iff.mp reached)

theorem Divides.floor_floor (h : Divides first fine coarse) (inside : Inner clock) :
    coarse.floor first (fine.floor first clock) = coarse.floor first clock := by
  have unit_eq := h.ordinal_startOf clock
  have dated := firstDay_le_startOf coarse first inside
  rw [floor_eq_of_inner fine first inside, floor_eq_of_inner coarse first inside,
    floor_eq_startOf (unit_eq ▸ dated), unit_eq]

theorem hour_divides_day : Divides first hour day := fun k =>
  ⟨k * 24, by simp only [startOf, nanosPerDay, nanosPerHour]; omega⟩

theorem day_divides_week : Divides first day week := fun _ => ⟨_, rfl⟩

theorem day_divides_month : Divides first day month := fun _ => ⟨_, rfl⟩

theorem month_divides_quarter : Divides first month quarter := fun _ => ⟨_, rfl⟩

theorem quarter_divides_halfYear : Divides first quarter halfYear := fun k =>
  ⟨k * 2, by rw [startOf, startOf, Int.mul_assoc]; rfl⟩

theorem halfYear_divides_year : Divides first halfYear year := fun k =>
  ⟨k * 2, by rw [startOf, startOf, Int.mul_assoc]; rfl⟩

/-- The units that divide each other, from fine to coarse. A week divides no month and no year. -/
def chains : List (List Anchor) := [[hour, day, month, quarter, halfYear, year], [hour, day, week]]

theorem isChain_divides (first : Weekday) {chain : List Anchor} (mem : chain ∈ chains) :
    chain.IsChain (Divides first) := by
  obtain rfl | rfl := List.mem_pair.mp mem
  · simp [hour_divides_day, day_divides_month, month_divides_quarter, quarter_divides_halfYear,
      halfYear_divides_year]
  · simp [hour_divides_day, day_divides_week]

/-- In the calendar without its first and its last year, a floor is at most its time, a time at
which a unit starts is its own floor, later times have later floors, and a time lies before the
boundary that its floor leads to. Along the units that divide each other, the floor of a finer floor
is the floor. -/
theorem floor_nested (anchor : Anchor) (first : Weekday) (clock : Int) (inside : Inner clock) :
    anchor.floor first clock ≤ clock ∧
    anchor.floor first (anchor.floor first clock) = anchor.floor first clock ∧
    (∀ later, Inner later → clock ≤ later →
      anchor.floor first clock ≤ anchor.floor first later) ∧
    (∃ next, advance? anchor.unit (Timestamp.ofClock (anchor.floor first clock) 0) = some next ∧
      clock < next.clock) ∧
    ∀ chain ∈ chains, chain.Pairwise fun fine coarse =>
      coarse.floor first (fine.floor first clock) = coarse.floor first clock := by
  refine ⟨anchor.floor_le first clock, (Divides.refl anchor).floor_floor inside,
    fun later inside' le => ?_, exists_next anchor first inside, fun chain mem => ?_⟩
  · rw [floor_eq_of_inner anchor first inside, floor_eq_of_inner anchor first inside']
    exact startOf_mono first (ordinal_mono first le)
  · have divides := List.isChain_iff_pairwise.mp (isChain_divides first mem)
    exact divides.imp fun h => h.floor_floor inside

/-- Early in the afternoon of Wednesday, 15 May 2024. -/
def midMay : Int := 19858 * nanosPerDay + 13 * nanosPerHour + 1

/-- The week from Sunday, 12 May, ends after the time, and the half year of its month began with the
year. -/
theorem floor_nested_midMay :
    Inner midMay ∧ week.floor .sunday midMay = 19855 * nanosPerDay ∧
      (∃ next, advance? week.unit (Timestamp.ofClock (week.floor .sunday midMay) 0) = some next ∧
        midMay < next.clock) ∧
      halfYear.floor .sunday (month.floor .sunday midMay) = 19723 * nanosPerDay := by
  have inside : Inner midMay := by decide +kernel
  obtain ⟨-, -, -, next, nested⟩ := floor_nested week .sunday midMay inside
  have throughMonth : halfYear.floor .sunday (month.floor .sunday midMay) =
      halfYear.floor .sunday midMay := by
    have years := nested _ (List.mem_cons_self ..)
    simp only [List.pairwise_cons, List.mem_cons] at years
    exact years.2.2.1 halfYear (by simp)
  refine ⟨inside, by decide +kernel, next, throughMonth.trans (by decide +kernel)⟩

end Window.Anchor

end SeriesScript
