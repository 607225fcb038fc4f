import SeriesScript.Proofs.Decimal.FullSignificand
import SeriesScript.Proofs.Series.Calls
import SeriesScript.Proofs.Series.Order

/-!
# Neighbours and the time between them

Slopes and gaps are taken between each point and the next one. The time between two points is cut to
whole milliseconds, so points less than a millisecond apart have no slope and no gap, whether or not
they are simultaneous. Dividing by a thousand turns no other distance into zero.
-/
namespace SeriesScript.Series

variable {points : List Point} {a b : Point} {n : Point × Point} {per : Number}

def neighbours (points : List Point) : List (Point × Point) := points.zip points.tail

def millisecondApart (n : Point × Point) : Bool :=
  1000000 ≤ (n.2.timestamp.instant - n.1.timestamp.instant).natAbs

def slope (per : Number) (n : Point × Point) : Point :=
  n.2.withValue ((n.2.value - n.1.value) / elapsedSeconds n.1 n.2 * per)

def gap (n : Point × Point) : Point := n.1.withValue (elapsedSeconds n.1 n.2)

theorem neighbours_cons_cons (a b : Point) (rest : List Point) :
    neighbours (a :: b :: rest) = (a, b) :: neighbours (b :: rest) := rfl

theorem elapsedMillis_eq_zero_iff : elapsedMillis a b = 0 ↔ millisecondApart (a, b) = false := by
  have cut := Int.natAbs_tdiv (b.timestamp.instant - a.timestamp.instant) 1000000
  change (elapsedMillis a b).natAbs = _ / 1000000 at cut
  simp only [millisecondApart, decide_eq_false_iff_not]
  omega

theorem elapsedSeconds_beq_zero_iff :
    (elapsedSeconds a b == .ofFloat 0) = true ↔ elapsedMillis a b = 0 :=
  Double.thousandth_beq_zero_iff

theorem slopes_eq (per : Number) (points : List Point) :
    slopes per points = ((neighbours points).filter millisecondApart).map (slope per) := by
  induction points with
  | nil => rfl
  | cons a rest ih =>
    cases rest with
    | nil => rfl
    | cons b rest =>
      rw [slopes, ih, neighbours_cons_cons, List.filter_cons]
      cases apart : millisecondApart (a, b) with
      | false => rw [if_pos (elapsedMillis_eq_zero_iff.mpr apart), if_neg Bool.false_ne_true]
      | true =>
        have elapsed : elapsedMillis a b ≠ 0 := by
          rw [ne_eq, elapsedMillis_eq_zero_iff, apart, Bool.not_eq_false]
        rw [if_neg elapsed, if_pos rfl]
        rfl

theorem gaps_eq (points : List Point) : gaps points = (neighbours points).map gap := by
  induction points with
  | nil => rfl
  | cons a rest ih =>
    cases rest with
    | nil => rfl
    | cons b rest =>
      rw [gaps, ih, neighbours_cons_cons, List.map_cons]
      rfl

theorem gap_beq_zero_iff : ((gap n).value == .ofFloat 0) = true ↔ millisecondApart n = false :=
  elapsedSeconds_beq_zero_iff.trans elapsedMillis_eq_zero_iff

theorem callFunction_derivative (prefs : Window.Preferences) (hardStart : Option Timestamp)
    {data : Series} {t : TimeAmount} {length : Duration} (measured : data.kind ∈ Function.measured)
    (resolved : t.resolve = .ok length) :
    callFunction prefs hardStart "Derivative" [.series data, .time t] =
      .ok (.series ⟨((neighbours data.points).filter millisecondApart).map
        (slope (.ofFloat length.seconds)), data.kind⟩) := by
  rw [← slopes_eq]
  exact callFunction_of_prepare (f := .derivative) rfl
    (Function.prepare_derivative measured resolved) rfl

theorem callFunction_timeBetween (prefs : Window.Preferences) (hardStart : Option Timestamp)
    (data : Series) :
    callFunction prefs hardStart "TimeBetween" [.series data] =
      .ok (.series ⟨(neighbours data.points).map gap, .time⟩) := by
  rw [← gaps_eq]
  exact callFunction_of_prepare (f := .timeBetween) rfl (Function.prepare_timeBetween data) rfl

/-- Neighbours at least a millisecond apart have a slope, in the order of the points and at the
later one, and the others have none. The gap of exactly the others is zero. If all points stand at
whole milliseconds, the others are the simultaneous ones. -/
theorem derivative_of_millisecondApart (prefs : Window.Preferences) (hardStart : Option Timestamp)
    (data : Series) (t : TimeAmount) (length : Duration) (measured : data.kind ∈ Function.measured)
    (resolved : t.resolve = .ok length) :
    callFunction prefs hardStart "Derivative" [.series data, .time t] =
        .ok (.series ⟨((neighbours data.points).filter millisecondApart).map
          (slope (.ofFloat length.seconds)), data.kind⟩) ∧
      callFunction prefs hardStart "TimeBetween" [.series data] =
        .ok (.series ⟨(neighbours data.points).map gap, .time⟩) ∧
      (∀ n ∈ neighbours data.points,
        ((gap n).value == .ofFloat 0) = true ↔ millisecondApart n = false) ∧
      ((∀ p ∈ data.points, 1000000 ∣ p.timestamp.instant) → ∀ n ∈ neighbours data.points,
        millisecondApart n = false ↔ n.1.timestamp.instant = n.2.timestamp.instant) := by
  refine ⟨callFunction_derivative prefs hardStart measured resolved,
    callFunction_timeBetween prefs hardStart data, fun n _ => gap_beq_zero_iff,
    fun whole n mem => ?_⟩
  have first := whole n.1 (List.of_mem_zip mem).1
  have second := whole n.2 (List.mem_of_mem_tail (List.of_mem_zip mem).2)
  simp only [millisecondApart, decide_eq_false_iff_not]
  omega

/-- Three points, the last two half a millisecond apart. -/
def close : Series :=
  ⟨[⟨⟨0, 0⟩, .ofFloat 1, "a"⟩, ⟨⟨2000000000, 0⟩, .ofFloat 2, "b"⟩,
    ⟨⟨2000500000, 0⟩, .ofFloat 3, "c"⟩], .numerical⟩

theorem derivative_of_millisecondApart_close :
    ∃ length, (TimeAmount.ofUnit .second).resolve = .ok length ∧
      close.kind ∈ Function.measured ∧
      ∃ p, p.timestamp = ⟨2000000000, 0⟩ ∧ p.label = "b" ∧
        callFunction .default none "Derivative" [.series close, .time (.ofUnit .second)] =
          .ok (.series ⟨[p], .numerical⟩) := by
  have measured : close.kind ∈ Function.measured := by decide
  obtain ⟨called, -⟩ :=
    derivative_of_millisecondApart .default none close (.ofUnit .second) .second measured rfl
  exact ⟨.second, rfl, measured, _, rfl, rfl, called⟩

/-- The last two points of the series are of different instants, and yet they have no slope. -/
theorem not_derivative_of_distinct_close :
    ¬ ∀ (prefs : Window.Preferences) (hardStart : Option Timestamp) (data : Series)
      (t : TimeAmount) (length : Duration), data.kind ∈ Function.measured →
      Ascending data.points → t.resolve = .ok length →
      ∃ output, callFunction prefs hardStart "Derivative" [.series data, .time t] =
          .ok (.series output) ∧
        output.points.map (fun p => (p.timestamp, p.label)) =
          ((neighbours data.points).filter fun n =>
            n.1.timestamp.instant ≠ n.2.timestamp.instant).map fun n =>
              (n.2.timestamp, n.2.label) := by
  intro claimed
  have measured : close.kind ∈ Function.measured := by decide
  have ascending : Ascending close.points := by simp [close, Ascending]
  obtain ⟨output, called, two⟩ :=
    claimed .default none close (.ofUnit .second) .second measured ascending rfl
  rw [callFunction_derivative _ _ measured rfl] at called
  cases called
  have same := congrArg List.length two
  rw [List.length_map, List.length_map, List.length_map] at same
  exact absurd same (by decide)

end SeriesScript.Series
