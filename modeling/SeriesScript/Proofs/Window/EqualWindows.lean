import SeriesScript.Proofs.Time.Resolution
import SeriesScript.Proofs.Window.Months

/-!
# Windows of equal length

Days can be counted or measured, and months can be counted in years. Such windows have one length,
and they lead from each boundary to the same next one, except that counted days do not lead to a
local date behind the calendar. So their bins are the same if they begin together, as they do where
they are aligned to one calendar unit. They need not be: a period is aligned by its years, its
months and its days in this order, so forty days are less than a month, and a year less nine months
is more than half a year.
-/
namespace SeriesScript

open Calendar

theorem Duration.days_bounded (n : Int32) :
    (n.toInt * nanosPerDay).natAbs ≤ 9223372036854775807 * 1000000 := by
  have least := n.le_toInt
  have most := n.toInt_lt
  rw [nanosPerDay]
  omega

def Duration.ofDays (n : Int32) : Duration := ⟨n.toInt * nanosPerDay, days_bounded n⟩

theorem Period.totalSeconds_eq (p : Period) :
    p.totalSeconds = p.totalMonths * secondsPerMonth + p.days.toInt * secondsPerDay := by
  rw [totalSeconds, totalMonths, secondsPerYear, secondsPerMonth]
  omega

namespace Window

variable {a b : TimeAmount} {stray : Timestamp → Prop} {prefs : Preferences}
  {hardStart : Option Timestamp} {points : List Point} {latest start : Timestamp} {n : Int32}
  {p q : Period}

/-! ## Lengths and steps -/

theorem positiveLength_congr (h : a.length? = b.length?) : positiveLength a = positiveLength b := by
  rw [positiveLength, positiveLength, TimeAmount.resolve, TimeAmount.resolve, h]

theorem length?_ofDays (n : Int32) :
    (TimeAmount.period (.ofDays n)).length? = (TimeAmount.duration (.ofDays n)).length? := by
  have nanos : (TimeAmount.period (.ofDays n)).nanos = (TimeAmount.duration (.ofDays n)).nanos := by
    simp only [TimeAmount.nanos, Period.totalSeconds, Period.ofDays, Duration.ofDays,
      Int32.toInt_zero, Period.secondsPerDay, nanosPerSecond, nanosPerDay]
    omega
  rw [TimeAmount.length?_eq, TimeAmount.length?_eq, nanos]

theorem length?_of_totals (months : p.totalMonths = q.totalMonths) (days : p.days = q.days) :
    (TimeAmount.period p).length? = (TimeAmount.period q).length? := by
  have nanos : (TimeAmount.period p).nanos = (TimeAmount.period q).nanos := by
    rw [TimeAmount.nanos, TimeAmount.nanos, Period.totalSeconds_eq, Period.totalSeconds_eq, months,
      days]
  rw [TimeAmount.length?_eq, TimeAmount.length?_eq, nanos]

/-- Counted days are measured days that stay on the calendar. -/
theorem advance?_ofDays (nonzero : n.toInt ≠ 0) (t : Timestamp) :
    advance? (.period (.ofDays n)) t =
      if hasDate (t.day + n.toInt) then advance? (.duration (.ofDays n)) t else none := by
  have months : (Period.ofDays n).totalMonths = 0 := rfl
  have sameTime : Timestamp.ofClock ((t.day + n.toInt) * nanosPerDay + t.timeOfDay) t.offset =
      t.plus (n.toInt * nanosPerDay) := by
    apply Timestamp.eq_of_clock
    · rw [Timestamp.clock_ofClock, Int.add_mul, Timestamp.day, Timestamp.timeOfDay]
      have shown := Int.ediv_mul_add_emod t.clock nanosPerDay
      simp only [Timestamp.clock, Timestamp.plus] at shown ⊢
      omega
    · rfl
  simp only [advance?, months, Timestamp.plusMonths?, ↓reduceIte]
  rw [Timestamp.plusDays?, Period.ofDays, if_neg nonzero, Timestamp.onDay?, Timestamp.ofClock?,
    sameTime]
  rfl

theorem advance?_of_totals (months : p.totalMonths = q.totalMonths) (days : p.days = q.days)
    (t : Timestamp) : advance? (.period p) t = advance? (.period q) t := by
  rw [advance?, advance?, months, days]

/-! ## Alignment -/

theorem Anchor.ofPeriod_ofDays (n : Int32) : ofPeriod (.ofDays n) =
    if n.toInt ≤ 1 then day else if n.toInt ≤ 7 then week else month := by
  have counted (days : Int32) :
      (Period.ofDays n).atMost ⟨0, 0, days⟩ = true ↔ n.toInt ≤ days.toInt := by
    rw [Period.atMost_iff]
    simp [Period.ofDays]
  have below : (Period.ofDays n).atMost ⟨0, 1, 0⟩ = true := by
    rw [Period.atMost_iff]
    simp [Period.ofDays]
  simp only [ofPeriod, counted, below, ↓reduceIte]
  rfl

theorem Anchor.ofNanos_days (days : Int) : ofNanos (days * nanosPerDay) =
    if days ≤ 0 then hour else if days ≤ 1 then day else if days ≤ 7 then week
    else if days ≤ 31 then month else if days ≤ 92 then quarter
    else if days ≤ 183 then halfYear else year := by
  have measured (bound : Int) : days * nanosPerDay ≤ bound * nanosPerDay ↔ days ≤ bound :=
    Int.mul_le_mul_right (by decide)
  have none : days * nanosPerDay ≤ nanosPerHour ↔ days ≤ 0 := by
    rw [nanosPerDay, nanosPerHour]
    omega
  have one := measured 1
  rw [Int.one_mul] at one
  simp only [ofNanos, measured, none, one]

/-- Days are aligned alike up to the length of a month. -/
theorem ofWindow_ofDays_iff (positive : 0 < n.toInt) :
    Anchor.ofWindow (.period (.ofDays n)) = Anchor.ofWindow (.duration (.ofDays n)) ↔
      n.toInt ≤ 31 := by
  rw [Anchor.ofWindow, Anchor.ofWindow, Anchor.ofPeriod_ofDays, Duration.ofDays, Anchor.ofNanos_days]
  split_ifs <;> simp <;> omega

/-- Years and months that are not negative align a period by their total. -/
theorem ofWindow_of_totals (months : p.totalMonths = q.totalMonths) (days : p.days = q.days)
    (years : 0 ≤ p.years.toInt) (nonneg : 0 ≤ p.months.toInt) (years' : 0 ≤ q.years.toInt)
    (nonneg' : 0 ≤ q.months.toInt) :
    Anchor.ofWindow (.period p) = Anchor.ofWindow (.period q) := by
  have alike (count rest : Int32) (least : 0 ≤ count.toInt) (short : count.toInt < 12) :
      p.atMost ⟨0, count, rest⟩ = q.atMost ⟨0, count, rest⟩ := by
    rw [Bool.eq_iff_iff, Period.atMost_months years nonneg least short,
      Period.atMost_months years' nonneg' least short, months, days]
  rw [Anchor.ofWindow, Anchor.ofWindow, Anchor.ofPeriod, Anchor.ofPeriod,
    alike 0 1 (by decide) (by decide), alike 0 7 (by decide) (by decide),
    alike 1 0 (by decide) (by decide), alike 3 0 (by decide) (by decide),
    alike 6 0 (by decide) (by decide)]

/-! ## Tiles and bins -/

/-- The first window leads where the second one does, except that it leads to no stray time. -/
def StepsAlike (stray : Timestamp → Prop) (a b : TimeAmount) : Prop :=
  ∀ t, advance? a t = advance? b t ∨
    (advance? a t = none ∧ ∃ stop, advance? b t = some stop ∧ stray stop)

/-- The tiles after one step, if that is a window that can be stamped. -/
theorem tiles_of_advance? {window : TimeAmount} {stop : Timestamp}
    (before : start.instant ≤ latest.instant) (advanced : advance? window start = some stop)
    (prefs : Preferences) : tiles window prefs latest start =
      if start.instant < stop.instant then
        if Timestamp.representable (prefs.stamp stop).instant then
          (tiles window prefs latest stop).map (⟨start, stop⟩ :: ·)
        else .error .calendarExceeded
      else .error (.invalidArgument .windowNotPositive) := by
  rw [tiles, dif_pos before, advanced]
  simp only [dite_eq_ite]
  cases tiles window prefs latest stop <;> rfl

/-- Windows that step alike lay the same tiles, unless one would end at a stray time. -/
theorem tiles_eq_or (alike : StepsAlike stray a b) (prefs : Preferences)
    (latest start : Timestamp) : tiles a prefs latest start = tiles b prefs latest start ∨
      (tiles a prefs latest start = .error (.invalidArgument .windowOutOfRange) ∧
        ∃ boundary, Ends b latest start boundary ∧ stray boundary) := by
  by_cases before : start.instant ≤ latest.instant
  · rcases alike start with same | ⟨refused, stop, advanced, far⟩
    · cases advanced : advance? b start with
      | none =>
        left
        rw [tiles, tiles, same, advanced]
      | some stop =>
        rw [tiles_of_advance? before (same.trans advanced), tiles_of_advance? before advanced]
        by_cases forward : start.instant < stop.instant
        · rcases tiles_eq_or alike prefs latest stop with later | ⟨refused, boundary, ends, far⟩
          · left
            rw [later]
          · rw [refused]
            split_ifs
            · exact .inr ⟨rfl, boundary, .later before advanced ends, far⟩
            · exact .inl rfl
        · left
          rw [if_neg forward, if_neg forward]
    · right
      refine ⟨?_, stop, .first before advanced, far⟩
      rw [tiles, dif_pos before, refused]
  · left
    rw [tiles, tiles, dif_neg before, dif_neg before]
termination_by (latest.instant + 1 - start.instant).toNat

def BeginTogether (a b : TimeAmount) (prefs : Preferences) (hardStart : Option Timestamp)
    (points : List Point) : Prop :=
  ∀ earliest, earliest? prefs hardStart points = some earliest →
    beginning a prefs.firstDayOfWeek earliest = beginning b prefs.firstDayOfWeek earliest

/-- Windows that step alike from the same time on give the same bins, unless one would end at a
stray time. -/
theorem fixed_eq_or (alike : StepsAlike stray a b)
    (together : BeginTogether a b prefs hardStart points) :
    fixed a prefs hardStart points = fixed b prefs hardStart points ∨
      (fixed a prefs hardStart points = .error (.invalidArgument .windowOutOfRange) ∧
        ∃ boundary, Boundary b prefs hardStart points boundary ∧ stray boundary) := by
  rw [fixed, fixed]
  cases found : earliest? prefs hardStart points with
  | none => exact .inl rfl
  | some earliest =>
    simp only [together earliest found]
    split
    · rcases tiles_eq_or alike prefs (Window.latest prefs points earliest)
        (beginning b prefs.firstDayOfWeek earliest) with same | ⟨refused, boundary, ends, far⟩
      · left
        rw [same]
      · right
        rw [refused]
        exact ⟨rfl, boundary, ⟨earliest, found, ends⟩, far⟩
    · exact .inl rfl

theorem stepsAlike_ofDays (nonzero : n.toInt ≠ 0) : StepsAlike (fun stop => ¬ hasDate stop.day)
    (.period (.ofDays n)) (.duration (.ofDays n)) := by
  intro t
  rw [advance?_ofDays nonzero]
  split_ifs with dated
  · exact .inl rfl
  · cases advanced : advance? (.duration (.ofDays n)) t with
    | none => exact .inl rfl
    | some stop =>
      have later : t.plus? (n.toInt * nanosPerDay) = some stop := advanced
      have reached : stop.day = t.day + n.toInt := by
        rw [Timestamp.day, Timestamp.clock_of_plus? later, Timestamp.day]
        exact Int.add_mul_ediv_right _ _ (by decide)
      rw [← reached] at dated
      exact .inr ⟨rfl, stop, rfl, dated⟩

/-- Windows of some days and of that many times 24 hours have one length, and lead to the same times
on the calendar. From the same time on they give the same bins, unless counted days end behind the
calendar; up to 31 days they are aligned alike. Periods with the same months and the same days have
one length and lead to the same times. From the same time on they give the same bins; they are
aligned alike if no years or months are negative. -/
theorem fixed_equalWindows (prefs : Preferences) (hardStart : Option Timestamp)
    (points : List Point) :
    (∀ a b : TimeAmount, Anchor.ofWindow a = Anchor.ofWindow b →
      BeginTogether a b prefs hardStart points) ∧
    (∀ n : Int32, 0 < n.toInt →
      (TimeAmount.period (.ofDays n)).same (.duration (.ofDays n)) = true ∧
      positiveLength (.period (.ofDays n)) = positiveLength (.duration (.ofDays n)) ∧
      (∀ t, advance? (.period (.ofDays n)) t =
        if hasDate (t.day + n.toInt) then advance? (.duration (.ofDays n)) t else none) ∧
      (Anchor.ofWindow (.period (.ofDays n)) = Anchor.ofWindow (.duration (.ofDays n)) ↔
        n.toInt ≤ 31) ∧
      (BeginTogether (.period (.ofDays n)) (.duration (.ofDays n)) prefs hardStart points →
        fixed (.period (.ofDays n)) prefs hardStart points =
          fixed (.duration (.ofDays n)) prefs hardStart points ∨
        (fixed (.period (.ofDays n)) prefs hardStart points =
            .error (.invalidArgument .windowOutOfRange) ∧
          ∃ boundary, Boundary (.duration (.ofDays n)) prefs hardStart points boundary ∧
            ¬ hasDate boundary.day))) ∧
    ∀ p q : Period, p.totalMonths = q.totalMonths → p.days = q.days →
      (∀ length, (TimeAmount.period p).resolve = .ok length →
        (TimeAmount.period p).same (.period q) = true) ∧
      positiveLength (.period p) = positiveLength (.period q) ∧
      (∀ t, advance? (.period p) t = advance? (.period q) t) ∧
      (0 ≤ p.years.toInt → 0 ≤ p.months.toInt → 0 ≤ q.years.toInt → 0 ≤ q.months.toInt →
        Anchor.ofWindow (.period p) = Anchor.ofWindow (.period q)) ∧
      (BeginTogether (.period p) (.period q) prefs hardStart points →
        fixed (.period p) prefs hardStart points = fixed (.period q) prefs hardStart points) := by
  refine ⟨fun a b aligned earliest _ => beginning_congr aligned _ _,
    fun n positive => ⟨?_, ?_, ?_, ?_, ?_⟩,
    fun p q months days => ⟨fun length resolved => ?_, ?_, ?_, ?_, fun together => ?_⟩⟩
  · rw [TimeAmount.same_iff, length?_ofDays]
    exact ⟨rfl, fun none => nomatch none⟩
  · exact positiveLength_congr (length?_ofDays n)
  · exact advance?_ofDays positive.ne'
  · exact ofWindow_ofDays_iff positive
  · exact fixed_eq_or (stepsAlike_ofDays positive.ne')
  · rw [TimeAmount.same_iff]
    refine ⟨length?_of_totals months days, fun none => ?_⟩
    rw [TimeAmount.resolve_eq_ok_iff, none] at resolved
    cases resolved
  · exact positiveLength_congr (length?_of_totals months days)
  · exact advance?_of_totals months days
  · exact ofWindow_of_totals months days
  · have alike : StepsAlike (fun _ => False) (.period p) (.period q) :=
      fun t => .inl (advance?_of_totals months days t)
    rcases fixed_eq_or alike together with same | ⟨-, _, -, impossible⟩
    · exact same
    · exact impossible.elim

/-- The night of `leapNight` by ten days and by 240 hours, and by fourteen months and five days. -/
theorem fixed_equalWindows_leapNight :
    fixed (.period (.ofDays 10)) .default none leapNight =
        fixed (.duration (.ofDays 10)) .default none leapNight ∧
      fixed (.period ⟨1, 2, 5⟩) .default none leapNight =
        fixed (.period ⟨0, 14, 5⟩) .default none leapNight := by
  obtain ⟨together, days, months⟩ := fixed_equalWindows .default none leapNight
  constructor
  · obtain ⟨-, -, -, aligned, bins⟩ := days 10 (by decide)
    have made : (fixed (.period (.ofDays 10)) .default none leapNight).toOption.isSome = true := by
      decide +kernel
    rcases bins (together _ _ (aligned.mpr (by decide))) with same | ⟨refused, -⟩
    · exact same
    · rw [refused] at made
      cases made
  · obtain ⟨-, -, -, aligned, bins⟩ := months ⟨1, 2, 5⟩ ⟨0, 14, 5⟩ (by decide) rfl
    exact bins (together _ _ (aligned (by decide) (by decide) (by decide) (by decide)))

def midMay : List Point := [⟨⟨1715774400000000000, 0⟩, .ofFloat 1, "a"⟩]

/-- Forty days are aligned to a month and 960 hours to a quarter, three months to a quarter and a
year less nine months to a year: around the middle of May each pair gives different bins. -/
theorem not_fixed_equalWindows_midMay :
    (¬ ∀ (n : Int32) (prefs : Preferences) (hardStart : Option Timestamp) (points : List Point),
      0 < n.toInt → Series.Ascending points →
      fixed (.period (.ofDays n)) prefs hardStart points =
        fixed (.duration (.ofDays n)) prefs hardStart points) ∧
    ¬ ∀ (p q : Period) (prefs : Preferences) (hardStart : Option Timestamp) (points : List Point)
      (length : Duration), p.totalMonths = q.totalMonths → p.days = q.days →
      positiveLength (.period p) = .ok length → Series.Ascending points →
      fixed (.period p) prefs hardStart points = fixed (.period q) prefs hardStart points := by
  have sorted : Series.Ascending midMay := List.pairwise_singleton _ _
  constructor
  · intro claimed
    have same := congrArg (fun r => r.toOption.map List.length)
      (claimed 40 .default none midMay (by decide) sorted)
    exact absurd same (by decide +kernel)
  · intro claimed
    have same := congrArg (fun r => r.toOption.map List.length)
      (claimed ⟨1, -9, 0⟩ ⟨0, 3, 0⟩ .default none midMay ⟨7889238000000000, by decide⟩ (by decide)
        rfl rfl sorted)
    exact absurd same (by decide +kernel)

end Window

end SeriesScript
