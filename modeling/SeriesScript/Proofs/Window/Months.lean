import SeriesScript.Proofs.Window.Dated
import SeriesScript.Proofs.Window.Starts

/-!
# Windows of whole months

A window of years and months is aligned to a month, a quarter, a half year or a year, so the first
one begins at midnight on the first of a month. A step of whole months from the first of a month
cuts no day and leads to the first of a month again, and so all boundaries are as many months after
the first one as the windows before them have together. Only a unit that begins before the calendar
is cut, and then all windows are laid from the earliest time itself.
-/
namespace SeriesScript

open Calendar

/-! ## The order of periods -/

theorem Period.atMost_iff {p q : Period} : p.atMost q = true ↔
    p.years.toInt < q.years.toInt ∨ (p.years.toInt = q.years.toInt ∧
      (p.months.toInt < q.months.toInt ∨
        (p.months.toInt = q.months.toInt ∧ p.days.toInt ≤ q.days.toInt))) := by
  simp [atMost, Int32.lt_iff_toInt_lt, Int32.le_iff_toInt_le, Int32.toInt_inj]

/-- Against less than a year, years and months that are not negative count together. -/
theorem Period.atMost_months {p : Period} {months days : Int32} (nonneg : 0 ≤ p.years.toInt)
    (nonneg' : 0 ≤ p.months.toInt) (least : 0 ≤ months.toInt) (short : months.toInt < 12) :
    p.atMost ⟨0, months, days⟩ = true ↔ p.totalMonths < months.toInt ∨
      (p.totalMonths = months.toInt ∧ p.days.toInt ≤ days.toInt) := by
  simp only [atMost_iff, totalMonths, Int32.toInt_zero]
  omega

/-- One month or more, in years and months that are not negative, and no days. -/
structure Period.WholeMonths (p : Period) : Prop where
  years : 0 ≤ p.years.toInt
  months : 0 ≤ p.months.toInt
  positive : 1 ≤ p.totalMonths
  days : p.days.toInt = 0

namespace Timestamp

variable {t u : Timestamp} {k count : Int}

@[simp] theorem ofClock_clock (t : Timestamp) : ofClock t.clock t.offset = t :=
  eq_of_clock (clock_ofClock _ _) rfl

/-- Between midnights on firsts of months lies a number of months. -/
theorem plusMonths?_eq_some (begins : t.clock = monthStart k * nanosPerDay)
    (ends : u.clock = monthStart (k + count) * nanosPerDay) (offset : u.offset = t.offset)
    (within : u.InCalendar) : t.plusMonths? count = some u := by
  obtain ⟨day, midnight⟩ := day_of_midnight begins
  rw [plusMonths?]
  split
  · rename_i none
    rw [eq_of_clock (begins.trans (by rw [ends, none, Int.add_zero])) offset.symm]
  · have reached : shiftMonths t.day count = u.day := by
      rw [day, shiftMonths_monthStart, (day_of_midnight ends).1]
    have shown : u.day * nanosPerDay + t.timeOfDay = u.clock := by
      rw [midnight, (day_of_midnight ends).1, ends, Int.add_zero]
    rw [onDay?, reached, if_pos within.2, shown, ← offset, ofClock?, ofClock_clock, checked?,
      if_pos within.1]

end Timestamp

namespace Window

variable {p : Period} {prefs : Preferences} {hardStart : Option Timestamp} {earliest : Timestamp}
  {points : List Point} {bins : List Bin} {s : Nat → Timestamp} {k : Int} {i : Nat}

/-- A unit to which a window of whole months is aligned begins with a month. -/
theorem exists_month_startOf (whole : p.WholeMonths) (first : Weekday) (k : Int) :
    ∃ month, (Anchor.ofWindow (.period p)).startOf first k = monthStart month * nanosPerDay := by
  obtain ⟨years, months, positive, -⟩ := whole
  have notDays (days : Int32) : p.atMost ⟨0, 0, days⟩ = false := by
    rw [← Bool.not_eq_true, Period.atMost_months years months (by decide) (by decide),
      Int32.toInt_zero]
    omega
  rw [Anchor.ofWindow, Anchor.ofPeriod]
  simp only [notDays, Bool.false_eq_true, ↓reduceIte]
  split
  · exact ⟨k, rfl⟩
  · split
    · exact ⟨k * 3, rfl⟩
    · split
      · exact ⟨k * 6, rfl⟩
      · exact ⟨k * 12, rfl⟩

/-- Calendar windows that begin within the calendar stay within it. -/
theorem Starts.inCalendar (h : Starts (.period p) prefs earliest bins s)
    (within : earliest.InCalendar) (hi : i ≤ bins.length) : (s i).InCalendar := by
  induction i with
  | zero =>
    rw [h.begins]
    exact beginning_inCalendar within
  | succ i ih => exact advance?_period_inCalendar (ih (by omega)) (h.next i hi)

/-- From the first of a month on, windows of whole months keep to firsts of months. -/
theorem Starts.clock_eq_monthStart (h : Starts (.period p) prefs earliest bins s)
    (begins : (s 0).clock = monthStart k * nanosPerDay) (days : p.days.toInt = 0)
    (hi : i ≤ bins.length) : (s i).clock = monthStart (k + i * p.totalMonths) * nanosPerDay := by
  induction i with
  | zero => simpa using begins
  | succ i ih =>
    rw [Anchor.clock_of_advance?_months (ih (by omega)) rfl days (h.next i hi)]
    push_cast
    rw [Int.add_mul, Int.one_mul, Int.add_assoc]

/-- Boundaries of windows of whole months that do not drift: at midnight on the first of a month, as
many months after the first boundary as its windows have, and from each of them the next step of
months finds its day. -/
structure MonthsApart (p : Period) (prefs : Preferences) (earliest : Timestamp) (bins : List Bin)
    (s : Nat → Timestamp) : Prop where
  starts : Starts (.period p) prefs earliest bins s
  offset_eq : ∀ i ≤ bins.length, (s i).offset = earliest.offset
  midnight : ∀ i ≤ bins.length, (s i).timeOfDay = 0
  first_of_month : ∀ i ≤ bins.length, dayOfMonth (s i).day = 0
  month_eq : ∀ i ≤ bins.length, monthOf (s i).day = monthOf (s 0).day + i * p.totalMonths
  later : ∀ i ≤ bins.length, (s 0).plusMonths? (i * p.totalMonths) = some (s i)
  uncut : ∀ i < bins.length,
    dayOfMonth (s i).day < monthLength (monthOf (s i).day + p.totalMonths)

theorem Starts.monthsApart (h : Starts (.period p) prefs earliest bins s)
    (within : earliest.InCalendar) (begins : (s 0).clock = monthStart k * nanosPerDay)
    (days : p.days.toInt = 0) : MonthsApart p prefs earliest bins s := by
  have clocks (i : Nat) (hi : i ≤ bins.length) := h.clock_eq_monthStart begins days hi
  have shown (i : Nat) (hi : i ≤ bins.length) := Timestamp.day_of_midnight (clocks i hi)
  refine ⟨h, fun i hi => h.offset_eq hi, fun i hi => (shown i hi).2, fun i hi => ?_, fun i hi => ?_,
    fun i hi => ?_, fun i hi => ?_⟩
  · rw [(shown i hi).1, dayOfMonth_monthStart]
  · rw [(shown i hi).1, (shown 0 (Nat.zero_le _)).1, monthOf_monthStart, monthOf_monthStart]
    simp
  · have offset : (s i).offset = (s 0).offset :=
      (h.offset_eq hi).trans (h.offset_eq (Nat.zero_le _)).symm
    exact Timestamp.plusMonths?_eq_some begins (clocks i hi) offset (h.inCalendar within hi)
  · rw [(shown i hi.le).1, dayOfMonth_monthStart, monthOf_monthStart, monthLength]
    exact Int.sub_pos.mpr (monthStart_lt_succ _)

/-- Windows of whole months do not drift, if the unit that holds the earliest time begins within the
calendar. -/
theorem fixed_monthsApart (p : Period) (prefs : Preferences) (hardStart : Option Timestamp)
    (points : List Point) (bins : List Bin) (whole : p.WholeMonths)
    (sorted : Series.Ascending points)
    (h : fixed (.period p) prefs hardStart points = .ok bins) :
    (earliest? prefs hardStart points = none → bins = []) ∧
    ∀ earliest, earliest? prefs hardStart points = some earliest →
      (Anchor.ofWindow (.period p)).BeginsWithin prefs.firstDayOfWeek earliest →
      ∃ s, MonthsApart p prefs earliest bins s := by
  refine ⟨fun none => ?_, fun earliest found begun => ?_⟩
  · rw [fixed, none] at h
    cases h
    rfl
  · obtain ⟨within, -⟩ := exists_tiles_of_fixed found h
    obtain ⟨s, starts, -⟩ := exists_starts h found sorted
    obtain ⟨month, first⟩ := exists_month_startOf whole prefs.firstDayOfWeek
      ((Anchor.ofWindow (.period p)).ordinal prefs.firstDayOfWeek earliest.clock)
    have begins : (s 0).clock = monthStart month * nanosPerDay := by
      rw [starts.begins, beginning_congr (Anchor.ofWindow_unit _).symm, Anchor.clock_beginning begun,
        first]
    exact ⟨s, starts.monthsApart within begins whole.days⟩

/-- Windows of five months are laid from the half year that holds the last night of February, on a
clock one hour ahead; the third one ends with March of the next year. -/
theorem fixed_monthsApart_fiveMonths :
    ∃ bins s, fixed (.period ⟨0, 5, 0⟩)
        ⟨.sunday, ⟨18000000000000, by decide⟩, some ⟨1740000000000000000, 0⟩⟩ none leapNight =
          .ok bins ∧
      bins.length = 3 ∧
      MonthsApart ⟨0, 5, 0⟩ ⟨.sunday, ⟨18000000000000, by decide⟩, some ⟨1740000000000000000, 0⟩⟩
        ⟨1709233200000000000, 3600⟩ bins s ∧
      s 3 = ⟨1743462000000000000, 3600⟩ := by
  have whole : Period.WholeMonths ⟨0, 5, 0⟩ := ⟨by decide, by decide, by decide, by decide⟩
  have sorted : Series.Ascending leapNight := by
    simp [Series.Ascending, leapNight]
  have three : (fixed (.period ⟨0, 5, 0⟩)
      ⟨.sunday, ⟨18000000000000, by decide⟩, some ⟨1740000000000000000, 0⟩⟩ none
      leapNight).toOption.map List.length = some 3 := by
    decide +kernel
  obtain ⟨bins, h, length⟩ := exists_bins three
  obtain ⟨s, apart⟩ := (fixed_monthsApart _ _ _ _ bins whole sorted h).2 _ rfl (by decide +kernel)
  have halfYear : s 0 = ⟨1704063600000000000, 3600⟩ := by
    rw [apart.starts.begins]
    decide +kernel
  have last : some (s 3) = some ⟨1743462000000000000, 3600⟩ := by
    rw [← apart.later 3 length.ge, halfYear]
    decide +kernel
  exact ⟨bins, s, h, length, apart, Option.some.inj last⟩

/-- A point of the last day of the first January of the calendar, on a clock one hour ahead. -/
def firstJanuary : List Point := [⟨⟨-8334598597200000000000, 3600⟩, .ofFloat 1, "a"⟩]

/-- On a clock that is ahead, the first January begins before the calendar. Windows are then laid
from the earliest time, here from noon on a day that February does not have. -/
theorem not_fixed_monthsApart_firstJanuary :
    ¬ ∀ (p : Period) (prefs : Preferences) (hardStart : Option Timestamp) (points : List Point)
      (bins : List Bin) (earliest : Timestamp), p.WholeMonths → Series.Ascending points →
      fixed (.period p) prefs hardStart points = .ok bins →
      earliest? prefs hardStart points = some earliest →
      ∃ s, MonthsApart p prefs earliest bins s := by
  intro claimed
  have whole : Period.WholeMonths ⟨0, 1, 0⟩ := ⟨by decide, by decide, by decide, by decide⟩
  have sorted : Series.Ascending firstJanuary := List.pairwise_singleton _ _
  have one : (fixed (.period ⟨0, 1, 0⟩) .default none firstJanuary).toOption.map List.length =
      some 1 := by
    decide +kernel
  obtain ⟨bins, h, -⟩ := exists_bins one
  obtain ⟨s, apart⟩ := claimed _ _ _ _ bins _ whole sorted h rfl
  have midnight := apart.midnight 0 (Nat.zero_le _)
  rw [apart.starts.begins] at midnight
  exact absurd midnight (by decide +kernel)

end Window

end SeriesScript
