import Mathlib.Data.List.Forall2
import Mathlib.Tactic.Linarith
import SeriesScript.Proofs.Decimal.Whole
import SeriesScript.Proofs.Series.Calls
import SeriesScript.Proofs.Series.References

/-!
# The time to the next reference

A point that is answered gets the time to its reference in seconds as its value. That time is cut to
whole milliseconds, so the value of a point less than a millisecond before its reference is zero.
-/
namespace SeriesScript.Series

variable {references points : List Point} {p r : Point} {j : Nat}

/-! ## Values -/

/-- The value is that of the whole milliseconds from one point to a later one, in seconds. -/
def IsCutSeconds (p r : Point) (value : Number) : Prop :=
  ∃ millis : Nat, value = .ofFloat (Float.ofInt millis / 1000) ∧
    millis * 1000000 ≤ r.timestamp.instant - p.timestamp.instant ∧
    r.timestamp.instant - p.timestamp.instant < (millis + 1) * 1000000

theorem isCutSeconds_elapsedSeconds (le : p.timestamp.instant ≤ r.timestamp.instant) :
    IsCutSeconds p r (elapsedSeconds p r) := by
  have cut : elapsedMillis p r = (r.timestamp.instant - p.timestamp.instant) / 1000000 :=
    Int.tdiv_eq_ediv_of_nonneg (by omega)
  have nonneg : 0 ≤ elapsedMillis p r := by omega
  refine ⟨(elapsedMillis p r).toNat, ?_, by omega, by omega⟩
  rw [Int.toNat_of_nonneg nonneg]
  rfl

/-- The value is the number of seconds from one point to another, up to one part in a thousand. -/
def IsSeconds (p r : Point) (value : Number) : Prop :=
  ∃ d, Decimal.Dyadic.ofFloat? value.toFloat = some d ∧
    |d.toRat * 1000000000 - (r.timestamp.instant - p.timestamp.instant : Int)| * 1000 ≤
      |((r.timestamp.instant - p.timestamp.instant : Int) : ℚ)|

/-- Between instants less than a millisecond apart, the value is right only if they are one. -/
theorem IsCutSeconds.instant_eq {value : Number} (cut : IsCutSeconds p r value)
    (seconds : IsSeconds p r value)
    (close : r.timestamp.instant - p.timestamp.instant < 1000000) :
    r.timestamp.instant = p.timestamp.instant := by
  obtain ⟨millis, rfl, low, -⟩ := cut
  obtain ⟨d, read, near⟩ := seconds
  have none : millis = 0 := by omega
  have zero : Decimal.Dyadic.ofFloat? (Float.ofInt (0 : Nat) / 1000) = some ⟨false, 0, -1074⟩ := by
    decide +kernel
  rw [none] at read
  cases zero.symm.trans read
  have nothing : (⟨false, 0, -1074⟩ : Decimal.Dyadic).toRat = 0 := by
    norm_num [Decimal.Dyadic.toRat]
  rw [nothing, zero_mul, zero_sub, abs_neg] at near
  have distance : |((r.timestamp.instant - p.timestamp.instant : Int) : ℚ)| = 0 := by
    linarith [abs_nonneg ((r.timestamp.instant - p.timestamp.instant : Int) : ℚ)]
  rw [abs_eq_zero, Int.cast_eq_zero] at distance
  omega

/-! ## Matching -/

theorem forall₂_filterMap {α β : Type} {R : β → α → Prop} {f : α → Option β} {l : List α}
    (h : ∀ a ∈ l, ∃ b, f a = some b ∧ R b a) : List.Forall₂ R (l.filterMap f) l := by
  induction l with
  | nil => exact .nil
  | cons a rest ih =>
    rw [List.forall_mem_cons] at h
    obtain ⟨⟨b, some, related⟩, h⟩ := h
    rw [List.filterMap_cons_some some]
    exact .cons related (ih h)

/-- A point of the output stands for one that waits for the reference of an index, the first one at
or after it, and keeps its timestamp and label. -/
structure Answers (Measures : Point → Point → Number → Prop) (references : List Point) (o : Point)
    (m : Point × Nat) : Prop where
  reference : ∃ r, references[m.2]? = some r ∧ m.1.timestamp.instant ≤ r.timestamp.instant ∧
    Measures m.1 r o.value
  earlier : ∀ i q, i < m.2 → references[i]? = some q → q.timestamp.instant < m.1.timestamp.instant
  timestamp : o.timestamp = m.1.timestamp
  label : o.label = m.1.label

/-- The output has one point for each reference that is waited for, in the order of the references.
It stands for the last point that waits, and these points come in their order as well. -/
def Matches (Measures : Point → Point → Number → Prop) (references points output : List Point) :
    Prop :=
  ∃ answered : List (Point × Nat),
    answered = (List.range references.length).filterMap (lastWaiting? references points) ∧
    (answered.map Prod.fst).Sublist points ∧ (answered.map Prod.snd).Pairwise (· < ·) ∧
    List.Forall₂ (Answers Measures references) output answered

theorem labels_of_answers {Measures : Point → Point → Number → Prop} {output : List Point}
    {answered : List (Point × Nat)} (h : List.Forall₂ (Answers Measures references) output answered) :
    output.map (·.label) = answered.map (·.1.label) := by
  induction h with
  | nil => rfl
  | cons first _ ih => rw [List.map_cons, List.map_cons, first.label, ih]

theorem answers_of_lastWaiting? (sorted : Ascending references) {m : Point × Nat}
    (last : lastWaiting? references points j = some m) :
    ∃ o, valued? references m = some o ∧ Answers IsCutSeconds references o m := by
  obtain ⟨r, found, atMost, before⟩ := waitsFor_first sorted (waitsFor_of_lastWaiting? last)
  refine ⟨m.1.withValue (elapsedSeconds m.1 r), ?_, ?_⟩
  · rw [valued?, found]
    rfl
  · exact ⟨⟨r, found, atMost, isCutSeconds_elapsedSeconds atMost⟩, before, rfl, rfl⟩

theorem matches_timeToReference (sorted : Ascending references) (ascending : Ascending points) :
    Matches IsCutSeconds references points (timeToReference points references) := by
  have answered := matched_eq sorted ascending
  refine ⟨matched references points, answered, matched_sublist references points, ?_, ?_⟩
  · rw [answered, List.pairwise_map]
    apply List.Pairwise.filterMap _ _ List.pairwise_lt_range
    intro i j lt m found n found'
    rw [snd_of_lastWaiting? found, snd_of_lastWaiting? found']
    exact lt
  · rw [timeToReference, matchReferences_eq]
    apply forall₂_filterMap
    intro m mem
    rw [answered, List.mem_filterMap] at mem
    obtain ⟨j, -, last⟩ := mem
    exact answers_of_lastWaiting? sorted last

theorem callFunction_timeBetween2 (prefs : Window.Preferences) (hardStart : Option Timestamp)
    (data references : Series) :
    callFunction prefs hardStart "TimeBetween2" [.series data, .series references] =
      .ok (.series ⟨timeToReference data.points references.points, .time⟩) :=
  callFunction_of_prepare (f := .timeBetween2) rfl (Function.prepare_timeBetween2 data references) rfl

/-- The time to the next reference. A reference contributes a point exactly if some point lies
behind the reference before it and not behind itself, and then it contributes the last such point,
with the whole milliseconds between the two as its value, in seconds. The contributions stand in the
order of the references; they come from points in their order, and the reference of each is the
first one at or after it. -/
theorem timeBetween2_matches (prefs : Window.Preferences) (hardStart : Option Timestamp)
    (data references : Series) (ascending : Ascending data.points)
    (sorted : Ascending references.points) :
    (∀ j, (lastWaiting? references.points data.points j).isSome ↔
      ∃ p ∈ data.points, waitsFor references.points j p) ∧
    ∃ output, callFunction prefs hardStart "TimeBetween2" [.series data, .series references] =
        .ok (.series ⟨output, .time⟩) ∧
      Matches IsCutSeconds references.points data.points output :=
  ⟨fun _ => isSome_lastWaiting?_iff, _, callFunction_timeBetween2 prefs hardStart data references,
    matches_timeToReference sorted ascending⟩

/-- Points before, at and behind two references of one instant, and one behind all references. -/
def arrivals : Series :=
  ⟨[⟨⟨1000000000, 0⟩, .ofFloat 1, "early"⟩, ⟨⟨2000000000, 0⟩, .ofFloat 2, "first"⟩,
    ⟨⟨2000000000, 3600⟩, .ofFloat 3, "second"⟩, ⟨⟨4000000000, 0⟩, .ofFloat 4, "third"⟩,
    ⟨⟨9000000000, 0⟩, .ofFloat 5, "late"⟩], .categorical⟩

def departures : Series :=
  ⟨[⟨⟨2000000000, 0⟩, .ofFloat 0, ""⟩, ⟨⟨2000000000, 0⟩, .ofFloat 0, ""⟩,
    ⟨⟨5000000000, 0⟩, .ofFloat 0, ""⟩], .numerical⟩

theorem timeBetween2_matches_departures :
    Ascending arrivals.points ∧ Ascending departures.points ∧
      ∃ output, callFunction .default none "TimeBetween2" [.series arrivals, .series departures] =
          .ok (.series ⟨output, .time⟩) ∧
        output.map (·.label) = ["second", "third"] := by
  have ascending : Ascending arrivals.points := by simp [arrivals, Ascending]
  have sorted : Ascending departures.points := by simp [departures, Ascending]
  obtain ⟨-, output, called, answered, rfl, -, -, answers⟩ :=
    timeBetween2_matches .default none arrivals departures ascending sorted
  refine ⟨ascending, sorted, output, called, ?_⟩
  rw [labels_of_answers answers]
  decide

def justBefore : Point := ⟨⟨0, 0⟩, .ofFloat 1, "a"⟩

def justBehind : Point := ⟨⟨500000, 0⟩, .ofFloat 2, "b"⟩

/-- Of a point half a millisecond before its reference, the value is zero. -/
theorem not_timeBetween2_isSeconds :
    ¬ ∀ (prefs : Window.Preferences) (hardStart : Option Timestamp) (data references : Series),
      Ascending data.points → Ascending references.points →
      ∃ output, callFunction prefs hardStart "TimeBetween2" [.series data, .series references] =
          .ok (.series ⟨output, .time⟩) ∧
        Matches IsSeconds references.points data.points output := by
  intro claimed
  have single (p : Point) : Ascending [p] := List.pairwise_singleton _ _
  have one : (List.range [justBehind].length).filterMap
      (lastWaiting? [justBehind] [justBefore]) = [(justBefore, 0)] := rfl
  obtain ⟨output, called, -, rfl, -, -, answers⟩ :=
    claimed .default none ⟨[justBefore], .numerical⟩ ⟨[justBehind], .numerical⟩ (single _) (single _)
  obtain ⟨-, rfl, -, -, cut⟩ := matches_timeToReference (single justBehind) (single justBefore)
  rw [callFunction_timeBetween2] at called
  cases called
  rw [one] at cut
  obtain ⟨o, _, first, -, output⟩ := List.forall₂_cons_right_iff.mp answers
  obtain ⟨o', _, first', -, output'⟩ := List.forall₂_cons_right_iff.mp cut
  cases output.symm.trans output'
  obtain ⟨r, found, -, right⟩ := first.reference
  obtain ⟨r', found', -, measured⟩ := first'.reference
  cases found
  cases found'
  have same : (500000 : Int) = 0 := measured.instant_eq right (by decide)
  cases same

end SeriesScript.Series
