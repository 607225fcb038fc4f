import Mathlib.Tactic.Ring
import SeriesScript.Proofs.Time.Exact

/-!
# Lengths of sums and multiples

A time amount comes to a number of nanoseconds, also where that is too long for a duration. Sums,
differences and whole multiples of amounts come to the sums, differences and multiples of these
numbers, in whatever way they are computed. So it does not matter for a sum or a difference which of
several amounts of the same length stands in it.
-/
namespace SeriesScript

namespace Period

variable {p q r : Period} {years months days n : Int}

theorem totalSeconds_of_counts (h : p.Counts years months days) :
    p.totalSeconds = years * secondsPerYear + months * secondsPerMonth + days * secondsPerDay := by
  obtain ⟨rfl, rfl, rfl⟩ := h
  rfl

theorem totalSeconds_of_add? (h : p.add? q = some r) :
    r.totalSeconds = p.totalSeconds + q.totalSeconds := by
  rw [totalSeconds_of_counts (ofComponents?_eq_some_iff.mp h), totalSeconds, totalSeconds]
  ring

theorem totalSeconds_of_sub? (h : p.sub? q = some r) :
    r.totalSeconds = p.totalSeconds - q.totalSeconds := by
  rw [totalSeconds_of_counts (ofComponents?_eq_some_iff.mp h), totalSeconds, totalSeconds]
  ring

theorem totalSeconds_of_scale? (h : p.scale? n = some q) :
    q.totalSeconds = n * p.totalSeconds := by
  rw [totalSeconds_of_counts (ofComponents?_eq_some_iff.mp h), totalSeconds]
  ring

/-- The mean length of a multiple is the multiple of the mean length, wherever both are durations.
-/
theorem duration?_of_scale? {x : Duration} (h : p.scale? n = some q) (resolved : p.duration? = some x) :
    q.duration? = Duration.ofNanos? (n * x.nanos) := by
  have length : x.nanos = p.totalSeconds * nanosPerSecond := Duration.ofNanos?_eq_some resolved
  rw [duration?, Duration.ofSeconds?, totalSeconds_of_scale? h, length, Int.mul_assoc]

end Period

namespace TimeAmount

variable {a a' b b' c c' : TimeAmount} {x : Duration}

/-- The nanoseconds of an amount, also of a period that is too long for a duration. -/
def nanos : TimeAmount → Int
  | period p => p.totalSeconds * nanosPerSecond
  | duration d => d.nanos

theorem length?_eq (a : TimeAmount) : a.length? = Duration.ofNanos? a.nanos := by
  cases a with
  | period p => rfl
  | duration d => exact (Duration.ofNanos?_nanos d).symm

theorem resolve_eq_ok_iff : a.resolve = .ok x ↔ a.length? = some x := inRange_eq_ok_iff

theorem nanos_of_length? (h : a.length? = some x) : x.nanos = a.nanos := by
  rw [length?_eq] at h
  exact Duration.ofNanos?_eq_some h

/-! ## Sums and differences -/

/-- An amount that is computed from two others has a length, and its nanoseconds come from theirs.
-/
def ComesTo (op : Int → Int → Int) (a b c : TimeAmount) : Prop :=
  (∃ z, c.length? = some z) ∧ c.nanos = op a.nanos b.nanos

theorem resolvable?_eq_some {o : Option Period} (h : resolvable? o = some c) :
    ∃ r, o = some r ∧ c = period r ∧ ∃ z, c.length? = some z := by
  unfold resolvable? at h
  split at h
  · rename_i r
    split at h
    · rename_i short
      cases h
      exact ⟨r, rfl, rfl, Option.isSome_iff_exists.mp short⟩
    · cases h
  · cases h

/-- Periods are joined by their counts and all others by their lengths, with the same result. -/
theorem comesTo_of_join {counts : Period → Period → Option Period}
    {lengths : Duration → Duration → Option Duration} {op : Int → Int → Int}
    (ofCounts : ∀ p q r, counts p q = some r →
      (period r).nanos = op (period p).nanos (period q).nanos)
    (ofLengths : ∀ x y z, lengths x y = some z → z.nanos = op x.nanos y.nanos)
    (h : join counts lengths a b = .ok c) : ComesTo op a b c := by
  have mixed (h : inRange (combine? lengths a b) = .ok c) : ComesTo op a b c := by
    obtain ⟨x, y, z, left, right, made, rfl⟩ := combine?_eq_some (inRange_eq_ok_iff.mp h)
    refine ⟨⟨z, rfl⟩, ?_⟩
    rw [← nanos_of_length? left, ← nanos_of_length? right]
    exact ofLengths x y z made
  cases a with
  | duration d => exact mixed h
  | period p => cases b with
    | duration d => exact mixed h
    | period q =>
      obtain ⟨r, counted, rfl, resolves⟩ := resolvable?_eq_some (inRange_eq_ok_iff.mp h)
      exact ⟨resolves, ofCounts p q r counted⟩

theorem comesTo_of_add (h : a.add b = .ok c) : ComesTo (· + ·) a b c := by
  rw [add_eq_join] at h
  refine comesTo_of_join (fun p q r counted => ?_) (fun x y z => Duration.ofNanos?_eq_some) h
  simp only [nanos, Period.totalSeconds_of_add? counted, Int.add_mul]

theorem comesTo_of_sub (h : a.sub b = .ok c) : ComesTo (· - ·) a b c := by
  rw [sub_eq_join] at h
  refine comesTo_of_join (fun p q r counted => ?_) (fun x y z => Duration.ofNanos?_eq_some) h
  simp only [nanos, Period.totalSeconds_of_sub? counted, Int.sub_mul]

theorem ComesTo.length {op : Int → Int → Int} {x y : Duration} (h : ComesTo op a b c)
    (left : a.resolve = .ok x) (right : b.resolve = .ok y) :
    ∃ z, c.resolve = .ok z ∧ z.nanos = op x.nanos y.nanos := by
  obtain ⟨⟨z, length⟩, total⟩ := h
  refine ⟨z, resolve_eq_ok_iff.mpr length, ?_⟩
  rw [nanos_of_length? length, nanos_of_length? (resolve_eq_ok_iff.mp left),
    nanos_of_length? (resolve_eq_ok_iff.mp right), total]

/-! ## Equal lengths -/

/-- Amounts are the same if they have the same length, and if they have none, if they are the same
period. -/
theorem same_iff : a.same b = true ↔ a.length? = b.length? ∧ (a.length? = none → a = b) := by
  cases ha : a.length? with
  | some x =>
    cases hb : b.length? with
    | some y => simp [same, ha, hb]
    | none =>
      have different : a ≠ b := fun eq => by simp [eq, hb] at ha
      cases a <;> cases b <;> simp_all [same]
  | none =>
    cases hb : b.length? with
    | some y =>
      have different : a ≠ b := fun eq => by simp [eq, hb] at ha
      cases a <;> cases b <;> simp_all [same]
    | none =>
      cases a <;> cases b <;> simp_all [same, length?]

theorem same_equivalence : Equivalence fun a b : TimeAmount => a.same b = true where
  refl a := same_iff.mpr ⟨rfl, fun _ => rfl⟩
  symm h := by
    obtain ⟨lengths, equal⟩ := same_iff.mp h
    exact same_iff.mpr ⟨lengths.symm, fun none => (equal (lengths.trans none)).symm⟩
  trans h h' := by
    obtain ⟨lengths, equal⟩ := same_iff.mp h
    obtain ⟨lengths', equal'⟩ := same_iff.mp h'
    refine same_iff.mpr ⟨lengths.trans lengths', fun none => ?_⟩
    exact (equal none).trans (equal' (lengths.symm.trans none))

theorem nanos_eq_of_same (h : a.same b = true) : a.nanos = b.nanos := by
  obtain ⟨lengths, equal⟩ := same_iff.mp h
  cases length : a.length? with
  | none => rw [equal length]
  | some x => exact (nanos_of_length? length).symm.trans (nanos_of_length? (lengths ▸ length))

/-- Results that are computed alike from the same amounts are the same. -/
theorem ComesTo.same {op : Int → Int → Int} (h : ComesTo op a b c) (h' : ComesTo op a' b' c')
    (left : a.same a' = true) (right : b.same b' = true) : c.same c' = true := by
  obtain ⟨⟨z, length⟩, total⟩ := h
  have equal : c.nanos = c'.nanos := by
    rw [total, h'.2, nanos_eq_of_same left, nanos_eq_of_same right]
  refine same_iff.mpr ⟨by rw [length?_eq, length?_eq, equal], fun none => ?_⟩
  cases length.symm.trans none

/-- Resolving takes sums, differences and whole multiples of amounts to those of their lengths.
Equality is an equivalence, also on periods that are too long to resolve, and sums and differences
of equal amounts are equal. -/
theorem resolve_homomorphism :
    (∀ (a b c : TimeAmount) (x y : Duration), a.resolve = .ok x → b.resolve = .ok y →
      (a.add b = .ok c → ∃ z, c.resolve = .ok z ∧ z.nanos = x.nanos + y.nanos) ∧
      (a.sub b = .ok c → ∃ z, c.resolve = .ok z ∧ z.nanos = x.nanos - y.nanos)) ∧
    (∀ (p q : Period) (n : Int32), p.scale? n.toInt = some q →
      q.totalSeconds = n.toInt * p.totalSeconds ∧
      ∀ x, p.duration? = some x → q.duration? = Duration.ofNanos? (n.toInt * x.nanos)) ∧
    (Equivalence fun a b : TimeAmount => a.same b = true) ∧
    ∀ a a' b b' c c' : TimeAmount, a.same a' = true → b.same b' = true →
      (a.add b = .ok c → a'.add b' = .ok c' → c.same c' = true) ∧
      (a.sub b = .ok c → a'.sub b' = .ok c' → c.same c' = true) := by
  refine ⟨fun a b c x y left right => ⟨fun sum => ?_, fun difference => ?_⟩, fun p q n scaled => ?_,
    same_equivalence, fun a a' b b' c c' left right => ⟨fun sum sum' => ?_, fun diff diff' => ?_⟩⟩
  · exact (comesTo_of_add sum).length left right
  · exact (comesTo_of_sub difference).length left right
  · exact ⟨Period.totalSeconds_of_scale? scaled, fun x => Period.duration?_of_scale? scaled⟩
  · exact (comesTo_of_add sum).same (comesTo_of_add sum') left right
  · exact (comesTo_of_sub diff).same (comesTo_of_sub diff') left right

/-- A day less a month, by its counts and by its length, and three times a month less a day. -/
theorem resolve_homomorphism_dayLessMonth :
    (∃ z, (period ⟨0, -1, 1⟩).resolve = .ok z ∧ z.nanos = 86400000000000 - 2629746000000000) ∧
      (period ⟨0, 3, -3⟩).length? = Duration.ofNanos? (-3 * (86400000000000 - 2629746000000000)) ∧
      (period ⟨0, -1, 1⟩).same (duration ⟨86400000000000 - 2629746000000000, by decide⟩) = true := by
  obtain ⟨lengths, multiples, -, equal⟩ := resolve_homomorphism
  refine ⟨?_, ?_, ?_⟩
  · exact (lengths (period ⟨0, 0, 1⟩) (period ⟨0, 1, 0⟩) _ ⟨86400000000000, by decide⟩
      ⟨2629746000000000, by decide⟩ rfl rfl).2 rfl
  · exact (multiples ⟨0, -1, 1⟩ _ (-3) rfl).2 ⟨86400000000000 - 2629746000000000, by decide⟩ rfl
  · exact (equal (period ⟨0, 0, 1⟩) (duration ⟨86400000000000, by decide⟩) (period ⟨0, 1, 0⟩)
      (duration ⟨2629746000000000, by decide⟩) _ _ (by decide) (by decide)).2 rfl rfl

end TimeAmount

end SeriesScript
