import SeriesScript.Proofs.Number.TotalOrder
import SeriesScript.Reduction

/-!
# The median

Numbers are compared by their places among all doubles, so any values have a median, infinities and
NaNs among them. Of an odd number of values one is in the middle: no more than half of the others
stand below it, and no more than half above. Of an even number two are in the middle, with no value
between them, and the median is their mean.
-/
namespace SeriesScript.Reduction

open Number (precedes_iff_rank_lt not_precedes_iff)

variable {values before after others : List Number} {x y : Number}

def countBelow (values : List Number) (x : Number) : Nat := values.countP fun v => v.Precedes x

def countAbove (values : List Number) (x : Number) : Nat := values.countP fun v => x.Precedes v

/-- One of the values, in the middle of an odd number of them. -/
structure IsMiddle (values : List Number) (x : Number) : Prop where
  mem : x ∈ values
  below : countBelow values x ≤ (values.length - 1) / 2
  above : countAbove values x ≤ (values.length - 1) / 2

/-- Two of the values, next to each other in the middle of an even number of them. -/
structure AreMiddle (values : List Number) (x y : Number) : Prop where
  places : ∃ i j : Nat, i ≠ j ∧ values[i]? = some x ∧ values[j]? = some y
  ordered : ¬ y.Precedes x
  below : countBelow values x ≤ values.length / 2 - 1
  above : countAbove values y ≤ values.length / 2 - 1
  between : ∀ v ∈ values, ¬ (x.Precedes v ∧ v.Precedes y)

/-! ## Values in order -/

def Ranked (values : List Number) : Prop := values.Pairwise fun a b => a.rank ≤ b.rank

theorem ranked_sorted (values : List Number) : Ranked (sorted values) := by
  have trans : ∀ a b c : Number, decide (a.rank ≤ b.rank) = true → decide (b.rank ≤ c.rank) = true →
      decide (a.rank ≤ c.rank) = true := by
    intro a b c first second
    rw [decide_eq_true_eq] at *
    exact Int.le_trans first second
  have total : ∀ a b : Number, (decide (a.rank ≤ b.rank) || decide (b.rank ≤ a.rank)) = true :=
    fun a b => by simpa using Int.le_total a.rank b.rank
  exact (List.pairwise_mergeSort trans total values).imp of_decide_eq_true

theorem sorted_perm (values : List Number) : (sorted values).Perm values :=
  List.mergeSort_perm values _

theorem countBelow_sorted (values : List Number) (x : Number) :
    countBelow (sorted values) x = countBelow values x :=
  (sorted_perm values).countP_eq _

theorem countAbove_sorted (values : List Number) (x : Number) :
    countAbove (sorted values) x = countAbove values x :=
  (sorted_perm values).countP_eq _

/-- What stands below a value is in front of it. -/
theorem Ranked.countBelow_le (h : Ranked (before ++ x :: after)) :
    countBelow (before ++ x :: after) x ≤ before.length := by
  obtain ⟨-, behind, -⟩ := List.pairwise_append.mp h
  have none : countBelow (x :: after) x = 0 := by
    refine List.countP_eq_zero.mpr fun v mem => ?_
    rcases List.mem_cons.mp mem with rfl | mem
    · simp
    · simpa [not_precedes_iff] using (List.pairwise_cons.mp behind).1 v mem
  rw [countBelow, List.countP_append, ← countBelow, ← countBelow, none]
  exact List.countP_le_length

theorem Ranked.countAbove_le (h : Ranked (before ++ x :: after)) :
    countAbove (before ++ x :: after) x ≤ after.length := by
  obtain ⟨-, -, inFront⟩ := List.pairwise_append.mp h
  have none : countAbove before x = 0 :=
    List.countP_eq_zero.mpr fun v mem => by
      simpa [not_precedes_iff] using inFront v mem x List.mem_cons_self
  rw [countAbove, List.countP_append, ← countAbove, ← countAbove, none, Nat.zero_add,
    countAbove, List.countP_cons_of_neg (by simp)]
  exact List.countP_le_length

/-- No value stands strictly between two neighbours. -/
theorem Ranked.not_between (h : Ranked (before ++ x :: y :: after)) :
    ∀ v ∈ before ++ x :: y :: after, ¬ (x.Precedes v ∧ v.Precedes y) := by
  obtain ⟨-, behind, inFront⟩ := List.pairwise_append.mp h
  rintro v mem ⟨above, below⟩
  rw [precedes_iff_rank_lt] at above below
  have inside : v ∈ before ∨ v = x ∨ v = y ∨ v ∈ after := by simpa using mem
  rcases inside with mem | rfl | rfl | mem
  · have first := inFront v mem x List.mem_cons_self
    omega
  · omega
  · omega
  · have last := (List.pairwise_cons.mp (List.pairwise_cons.mp behind).2).1 v mem
    omega

/-! ## The middle -/

theorem exists_split {l : List Number} {k : Nat} (inside : k < l.length) :
    ∃ before x after, l = before ++ x :: after ∧ before.length = k := by
  refine ⟨l.take k, l[k], l.drop (k + 1), ?_, List.length_take_of_le (Nat.le_of_lt inside)⟩
  rw [← List.drop_eq_getElem_cons inside, List.take_append_drop]

theorem exists_middle {l : List Number} (odd : l.length % 2 = 1) :
    ∃ before x after, l = before ++ x :: after ∧ before.length = after.length := by
  obtain ⟨before, x, after, rfl, front⟩ := exists_split (l := l) (k := l.length / 2) (by omega)
  refine ⟨before, x, after, rfl, ?_⟩
  simp only [List.length_append, List.length_cons] at front odd
  omega

theorem exists_middlePair {l : List Number} (some : l ≠ []) (even : l.length % 2 = 0) :
    ∃ before x y after, l = before ++ x :: y :: after ∧ before.length = after.length := by
  have positive := List.length_pos_iff.mpr some
  obtain ⟨before, x, behind, rfl, front⟩ := exists_split (l := l) (k := l.length / 2 - 1) (by omega)
  cases behind with
  | nil =>
    simp only [List.length_append, List.length_cons, List.length_nil] at front even
    omega
  | cons y after =>
    refine ⟨before, x, y, after, rfl, ?_⟩
    simp only [List.length_append, List.length_cons] at front even
    omega

theorem isMiddle_of_sorted (split : sorted values = before ++ x :: after)
    (halves : before.length = after.length) : IsMiddle values x := by
  have ranked := ranked_sorted values
  have perm := sorted_perm values
  rw [split] at ranked perm
  have length := perm.length_eq
  simp only [List.length_append, List.length_cons] at length
  refine ⟨perm.mem_iff.mp (by simp), ?_, ?_⟩
  · rw [← countBelow_sorted, split]
    exact Nat.le_trans ranked.countBelow_le (by omega)
  · rw [← countAbove_sorted, split]
    exact Nat.le_trans ranked.countAbove_le (by omega)

/-- Two values of a list have two places in any other order of it. -/
theorem exists_places (perm : values.Perm (x :: y :: others)) :
    ∃ i j : Nat, i ≠ j ∧ values[i]? = some x ∧ values[j]? = some y := by
  obtain ⟨front, behind, rfl⟩ := List.append_of_mem (perm.mem_iff.mpr List.mem_cons_self)
  have rest : (front ++ behind).Perm (y :: others) := (List.perm_middle.symm.trans perm).cons_inv
  have first : (front ++ x :: behind)[front.length]? = some x := by simp
  rcases List.mem_append.mp (rest.mem_iff.mpr List.mem_cons_self) with mem | mem
  · obtain ⟨j, inside, rfl⟩ := List.mem_iff_getElem.mp mem
    refine ⟨front.length, j, by omega, first, ?_⟩
    rw [List.getElem?_append_left inside, List.getElem?_eq_getElem inside]
  · obtain ⟨j, inside, rfl⟩ := List.mem_iff_getElem.mp mem
    refine ⟨front.length, front.length + (j + 1), by omega, first, ?_⟩
    rw [List.getElem?_append_right (by omega), Nat.add_sub_cancel_left, List.getElem?_cons_succ,
      List.getElem?_eq_getElem inside]

theorem areMiddle_of_sorted (split : sorted values = before ++ x :: y :: after)
    (halves : before.length = after.length) : AreMiddle values x y := by
  have ranked := ranked_sorted values
  have perm := sorted_perm values
  rw [split] at ranked perm
  have length := perm.length_eq
  simp only [List.length_append, List.length_cons] at length
  have upper : before ++ x :: y :: after = (before ++ [x]) ++ y :: after := by simp
  have pairFirst : values.Perm (x :: y :: (before ++ after)) :=
    perm.symm.trans (List.perm_middle.trans (List.perm_middle.cons x))
  refine ⟨exists_places pairFirst, ?_, ?_, ?_, ?_⟩
  · obtain ⟨-, pair, -⟩ := List.pairwise_append.mp ranked
    exact not_precedes_iff.mpr ((List.pairwise_cons.mp pair).1 y List.mem_cons_self)
  · rw [← countBelow_sorted, split]
    exact Nat.le_trans ranked.countBelow_le (by omega)
  · rw [← countAbove_sorted, split, upper]
    exact Nat.le_trans (upper ▸ ranked).countAbove_le (by omega)
  · exact fun v mem => ranked.not_between v (perm.mem_iff.mpr mem)

/-! ## The reduction -/

theorem medianOf_of_middle (split : sorted values = before ++ x :: after)
    (halves : before.length = after.length) : medianOf values = x := by
  have length : (before ++ x :: after).length = 2 * before.length + 1 := by
    simp only [List.length_append, List.length_cons]
    omega
  have odd : ¬ (before ++ x :: after).length % 2 = 0 := by omega
  have middle : (before ++ x :: after).length / 2 = before.length := by omega
  simp only [medianOf, split, odd, middle, ↓reduceIte]
  simp

theorem medianOf_of_middlePair (split : sorted values = before ++ x :: y :: after)
    (halves : before.length = after.length) : medianOf values = (x + y) / .ofFloat 2 := by
  have length : (before ++ x :: y :: after).length = 2 * (before.length + 1) := by
    simp only [List.length_append, List.length_cons]
    omega
  have even : (before ++ x :: y :: after).length % 2 = 0 := by omega
  have middle : (before ++ x :: y :: after).length / 2 = before.length + 1 := by omega
  simp only [medianOf, split, even, middle, ↓reduceIte, Nat.add_sub_cancel]
  simp

theorem reduce_median (some : values ≠ []) : median.reduce values = .some (medianOf values) := by
  cases values with
  | nil => exact absurd rfl some
  | cons first rest => rfl

/-- The median of an odd number of values is the one in the middle, and that of an even number is
the mean of the two in the middle. -/
theorem median_takes_middle (values : List Number) (some : values ≠ []) :
    (values.length % 2 = 1 →
      ∃ x, IsMiddle values x ∧ median.reduce values = .some x) ∧
    (values.length % 2 = 0 →
      ∃ x y, AreMiddle values x y ∧ median.reduce values = .some ((x + y) / .ofFloat 2)) := by
  have perm := sorted_perm values
  rw [reduce_median some]
  constructor
  · intro odd
    obtain ⟨before, x, after, split, halves⟩ := exists_middle (perm.length_eq ▸ odd)
    exact ⟨x, isMiddle_of_sorted split halves, congrArg _ (medianOf_of_middle split halves)⟩
  · intro even
    have someSorted : sorted values ≠ [] := fun none => some (by simpa [none] using perm)
    obtain ⟨before, x, y, after, split, halves⟩ :=
      exists_middlePair someSorted (perm.length_eq ▸ even)
    exact ⟨x, y, areMiddle_of_sorted split halves,
      congrArg _ (medianOf_of_middlePair split halves)⟩

def readings : List Number :=
  [.ofFloat 3, ⟨0 / 0, true⟩, .ofFloat 1, .ofFloat (-0.0), .ofFloat 1]

/-- The value in the middle is `1`; without the first reading, two values share the middle. -/
theorem median_takes_middle_readings :
    (readings ≠ [] ∧ readings.length % 2 = 1 ∧ median.reduce readings = some (.ofFloat 1)) ∧
      readings.tail ≠ [] ∧ readings.tail.length % 2 = 0 ∧
        ∃ x y, AreMiddle readings.tail x y ∧
          median.reduce readings.tail = some ((x + y) / .ofFloat 2) := by
  have given : readings ≠ [] := List.cons_ne_nil _ _
  have givenTail : readings.tail ≠ [] := List.cons_ne_nil _ _
  obtain ⟨x, ⟨mem, below, above⟩, median⟩ := (median_takes_middle readings given).1 rfl
  have one : x = .ofFloat 1 := by
    simp only [readings, List.mem_cons, List.not_mem_nil, or_false] at mem
    rcases mem with rfl | rfl | rfl | rfl | rfl
    · exact absurd below (by decide)
    · exact absurd above (by decide)
    · rfl
    · exact absurd above (by decide)
    · rfl
  exact ⟨⟨given, rfl, one ▸ median⟩, givenTail, rfl,
    (median_takes_middle readings.tail givenTail).2 rfl⟩

end SeriesScript.Reduction
