import Mathlib.Data.List.Basic
import SeriesScript.Proofs.Series.Order

/-!
# Which points a reference answers

A point waits for the first reference at or after it. Each reference that is waited for answers the
last point that waits for it, so the answered points and the references that answer them come in the
same order.
-/
namespace SeriesScript.Series

variable {references points rest : List Point} {p q r : Point} {t : Timestamp} {i j : Nat}

/-! ## Halving -/

/-- Halving finds where a property ends that holds of the leading indices only. -/
theorem boundary_spec {holds : Nat → Bool} (ordered : ∀ i j, i ≤ j → holds j = true → holds i = true)
    (base size : Nat) (inhabited : 0 < size) :
    base ≤ boundary holds base size ∧ boundary holds base size ≤ base + size ∧
      ∀ i, base ≤ i → i < base + size → (holds i = true ↔ i < boundary holds base size) := by
  fun_induction boundary holds base size with
  | case1 base size small held =>
    refine ⟨by omega, by omega, fun i low high => ?_⟩
    have : i = base := by omega
    simp [this, held]
  | case2 base size small failed =>
    refine ⟨by omega, by omega, fun i low high => ?_⟩
    have : i = base := by omega
    simp [this, failed]
  | case3 base size large half ih =>
    have halved : half = size / 2 := rfl
    by_cases held : holds (base + half) = true
    · simp only [held, ↓reduceDIte, ↓reduceIte] at ih ⊢
      obtain ⟨low, high, here⟩ := ih (by omega)
      refine ⟨by omega, by omega, fun i above below => ?_⟩
      by_cases before : i < base + half
      · simp [ordered i (base + half) (by omega) held]
        omega
      · exact here i (by omega) (by omega)
    · simp only [held, ↓reduceDIte, Bool.false_eq_true, ↓reduceIte] at ih ⊢
      obtain ⟨low, high, here⟩ := ih (by omega)
      refine ⟨by omega, by omega, fun i above below => ?_⟩
      by_cases before : i < base + (size - half)
      · exact here i above before
      · have beyond : holds i ≠ true := fun h => held (ordered (base + half) i (by omega) h)
        simp [beyond]
        omega

def precedes (references : Array Point) (t : Timestamp) (i : Nat) : Bool :=
  match references[i]? with
  | some r => r.timestamp.instant < t.instant
  | none => false

theorem precedes_iff :
    precedes references.toArray t i = true ↔
      ∃ r, references[i]? = some r ∧ r.timestamp.instant < t.instant := by
  rw [precedes, List.getElem?_toArray]
  cases references[i]? <;> simp

theorem precedes_of_le (sorted : Ascending references) (le : i ≤ j)
    (h : precedes references.toArray t j = true) : precedes references.toArray t i = true := by
  obtain ⟨r, found, earlier⟩ := precedes_iff.mp h
  obtain ⟨inside, rfl⟩ := List.getElem?_eq_some_iff.mp found
  refine precedes_iff.mpr ⟨references[i], by simp, ?_⟩
  by_cases same : i = j
  · subst same
    exact earlier
  · have := List.pairwise_iff_getElem.mp sorted i j (by omega) inside (by omega)
    omega

/-- The references before the one that is found are those before the time. -/
theorem firstAtOrAfter_spec (sorted : Ascending references) (t : Timestamp) :
    firstAtOrAfter references.toArray t ≤ references.length ∧
      ∀ i, i < references.length →
        (precedes references.toArray t i = true ↔ i < firstAtOrAfter references.toArray t) := by
  by_cases empty : references = []
  · simp [empty, firstAtOrAfter]
  · have found : firstAtOrAfter references.toArray t =
        boundary (precedes references.toArray t) 0 references.length := by
      rw [firstAtOrAfter, if_neg (by simpa using empty)]
      rfl
    have ordered : ∀ i j, i ≤ j → precedes references.toArray t j = true →
        precedes references.toArray t i = true := fun i j => precedes_of_le sorted
    rw [found]
    simpa using (boundary_spec ordered 0 references.length (List.length_pos_iff.mpr empty)).2

theorem firstAtOrAfter_mono (sorted : Ascending references)
    (le : p.timestamp.instant ≤ q.timestamp.instant) :
    firstAtOrAfter references.toArray p.timestamp ≤ firstAtOrAfter references.toArray q.timestamp := by
  obtain ⟨within, before⟩ := firstAtOrAfter_spec sorted p.timestamp
  have before' := (firstAtOrAfter_spec sorted q.timestamp).2
  apply Nat.le_of_not_lt
  intro lt
  obtain ⟨r, found, earlier⟩ := precedes_iff.mp ((before _ (by omega)).mpr lt)
  have := (before' _ (by omega)).mp (precedes_iff.mpr ⟨r, found, by omega⟩)
  omega

/-! ## Waiting -/

/-- A point is behind the reference before the `j`-th one, and not behind the `j`-th. -/
def waitsFor (references : List Point) (j : Nat) (p : Point) : Bool :=
  (j == 0 || references[j - 1]?.all fun q => q.timestamp.instant < p.timestamp.instant) &&
    references[j]?.any fun r => p.timestamp.instant ≤ r.timestamp.instant

theorem waitsFor_iff (sorted : Ascending references) :
    waitsFor references j p = true ↔
      firstAtOrAfter references.toArray p.timestamp = j ∧ j < references.length := by
  by_cases inside : j < references.length
  · obtain ⟨within, before⟩ := firstAtOrAfter_spec sorted p.timestamp
    have earlier : ∀ i (h : i < references.length),
        references[i].timestamp.instant < p.timestamp.instant ↔
          i < firstAtOrAfter references.toArray p.timestamp := by
      intro i h
      rw [← before i h, precedes_iff]
      simp [h]
    have last : j - 1 < references.length := by omega
    have here := earlier j inside
    simp only [waitsFor, inside, last, List.getElem?_eq_getElem, Option.all_some, Option.any_some,
      Bool.and_eq_true, Bool.or_eq_true, beq_iff_eq, decide_eq_true_eq, earlier, and_true]
    omega
  · simp [waitsFor, inside]

/-- The reference that a point waits for is the first one at or after it. -/
theorem waitsFor_first (sorted : Ascending references) (waits : waitsFor references j p = true) :
    ∃ r, references[j]? = some r ∧ p.timestamp.instant ≤ r.timestamp.instant ∧
      ∀ i q, i < j → references[i]? = some q → q.timestamp.instant < p.timestamp.instant := by
  obtain ⟨found, inside⟩ := (waitsFor_iff sorted).mp waits
  have before := (firstAtOrAfter_spec sorted p.timestamp).2
  refine ⟨references[j], by simp [inside], ?_, ?_⟩
  · have reached := before j inside
    rw [found, precedes_iff] at reached
    simpa [inside] using reached
  · intro i q lt at_i
    have passed := before i (by omega)
    rw [found, precedes_iff, at_i] at passed
    simpa [lt] using passed

/-! ## Answers -/

/-- The answered points, each with the index of the reference that answers it. -/
def matched (references : List Point) : List Point → List (Point × Nat)
  | [] => []
  | p :: rest =>
    let index := firstAtOrAfter references.toArray p.timestamp
    if index < references.length ∧ index ∉ (matched references rest).map Prod.snd then
      (p, index) :: matched references rest
    else matched references rest

def valued? (references : List Point) (m : Point × Nat) : Option Point :=
  references[m.2]?.map fun r => m.1.withValue (elapsedSeconds m.1 r)

theorem matchReferences_eq (references points : List Point) :
    matchReferences references.toArray points =
      ((matched references points).filterMap (valued? references),
        (matched references points).map Prod.snd) := by
  induction points with
  | nil => rfl
  | cons p rest ih =>
    simp only [matchReferences, ih, matched, List.getElem?_toArray]
    generalize firstAtOrAfter references.toArray p.timestamp = index
    by_cases inside : index < references.length
    · by_cases taken : index ∈ (matched references rest).map Prod.snd
      · simp [inside, taken]
      · simp [inside, taken, valued?]
    · simp [inside]

theorem matched_sublist (references points : List Point) :
    ((matched references points).map Prod.fst).Sublist points := by
  induction points with
  | nil => exact .slnil
  | cons p rest ih =>
    simp only [matched]
    split
    · exact ih.cons_cons p
    · exact ih.cons p

/-- The last of the points that wait for a reference, with the index of the reference. -/
def lastWaiting? (references points : List Point) (j : Nat) : Option (Point × Nat) :=
  ((points.filter (waitsFor references j)).getLast?).map (·, j)

theorem filterMap_range_insert {α : Type} {f g : Nat → Option α} {a : α} {n k : Nat} (inside : k < n)
    (before : ∀ j < k, f j = none) (gone : f k = none) (here : g k = some a)
    (elsewhere : ∀ j, j ≠ k → g j = f j) :
    (List.range n).filterMap g = a :: (List.range n).filterMap f := by
  obtain ⟨m, rfl⟩ := Nat.exists_eq_add_of_lt inside
  have none_before : (List.range k).filterMap f = [] := by
    simpa [List.filterMap_eq_nil_iff] using before
  have same_before : (List.range k).filterMap g = (List.range k).filterMap f :=
    List.filterMap_congr fun j mem => elsewhere j (Nat.ne_of_lt (List.mem_range.mp mem))
  rw [Nat.add_assoc, List.range_add, Nat.add_comm m 1, List.range_add]
  simp only [List.filterMap_append, none_before, same_before, List.nil_append, List.filterMap_map]
  simp [gone, here]
  apply List.filterMap_congr
  intro j _
  exact elsewhere _ (by omega)

theorem lastWaiting?_eq_none_iff :
    lastWaiting? references points j = none ↔ ∀ p ∈ points, ¬ waitsFor references j p = true := by
  simp [lastWaiting?]

theorem lastWaiting?_cons (references rest : List Point) (p : Point) (j : Nat) :
    lastWaiting? references (p :: rest) j =
      if waitsFor references j p then (lastWaiting? references rest j).or (some (p, j))
      else lastWaiting? references rest j := by
  rw [lastWaiting?, lastWaiting?, List.filter_cons]
  by_cases waits : waitsFor references j p = true
  · rw [if_pos waits, if_pos waits, List.getLast?_cons]
    cases (rest.filter (waitsFor references j)).getLast? <;> rfl
  · rw [if_neg waits, if_neg waits]

/-- A point does not take the place of one behind it. -/
theorem lastWaiting?_cons_of_ne_none (answered : lastWaiting? references rest j ≠ none) :
    lastWaiting? references (p :: rest) j = lastWaiting? references rest j := by
  obtain ⟨m, found⟩ := Option.ne_none_iff_exists'.mp answered
  rw [lastWaiting?_cons, found, Option.some_or, ite_self]

theorem snd_of_lastWaiting? {m : Point × Nat} (h : lastWaiting? references points j = some m) :
    m.2 = j := by
  rw [lastWaiting?, Option.map_eq_some_iff] at h
  obtain ⟨p, -, rfl⟩ := h
  rfl

theorem mem_snd_lastWaiting_iff {n : Nat} :
    j ∈ ((List.range n).filterMap (lastWaiting? references points)).map Prod.snd ↔
      j < n ∧ ∃ p ∈ points, waitsFor references j p = true := by
  have answered : (∃ p ∈ points, waitsFor references j p = true) ↔
      lastWaiting? references points j ≠ none := by
    simp [lastWaiting?_eq_none_iff]
  simp only [List.mem_map, List.mem_filterMap, List.mem_range, answered]
  constructor
  · rintro ⟨m, ⟨i, inside, found⟩, rfl⟩
    rw [snd_of_lastWaiting? found]
    simp [inside, found]
  · rintro ⟨inside, ne⟩
    obtain ⟨m, found⟩ := Option.ne_none_iff_exists'.mp ne
    exact ⟨m, ⟨j, inside, found⟩, snd_of_lastWaiting? found⟩

/-- Each reference answers the last point that waits for it, in the order of the references. -/
theorem matched_eq (sorted : Ascending references) (ascending : Ascending points) :
    matched references points =
      (List.range references.length).filterMap (lastWaiting? references points) := by
  induction points with
  | nil => simp [matched, lastWaiting?]
  | cons p rest ih =>
    obtain ⟨least, ascending⟩ := List.pairwise_cons.mp ascending
    simp only [matched, ih ascending, mem_snd_lastWaiting_iff]
    generalize index : firstAtOrAfter references.toArray p.timestamp = k
    have waits : ∀ j, waitsFor references j p = true ↔ j = k ∧ k < references.length := by
      intro j
      rw [waitsFor_iff sorted]
      omega
    have elsewhere : ∀ j, j ≠ k →
        lastWaiting? references (p :: rest) j = lastWaiting? references rest j := by
      intro j ne
      rw [lastWaiting?_cons, if_neg (by simp [waits, ne])]
    split
    · rename_i free
      obtain ⟨inside, free⟩ := free
      have gone : lastWaiting? references rest k = none := by
        simpa [lastWaiting?_eq_none_iff, inside] using free
      symm
      apply filterMap_range_insert inside _ gone _ elsewhere
      · intro j lt
        rw [lastWaiting?_eq_none_iff]
        intro q mem waiting
        have := firstAtOrAfter_mono sorted (least q mem)
        have := ((waitsFor_iff sorted).mp waiting).1
        omega
      · rw [lastWaiting?_cons, if_pos (by simp [waits, inside]), gone]
        rfl
    · rename_i held
      apply List.filterMap_congr
      intro j mem
      by_cases waiting : waitsFor references j p = true
      · obtain ⟨rfl, inside⟩ := (waits j).mp waiting
        symm
        apply lastWaiting?_cons_of_ne_none
        rw [ne_eq, lastWaiting?_eq_none_iff]
        simpa [inside] using held
      · rw [lastWaiting?_cons, if_neg waiting]

theorem waitsFor_of_lastWaiting? {m : Point × Nat} (h : lastWaiting? references points j = some m) :
    waitsFor references m.2 m.1 = true := by
  rw [lastWaiting?, Option.map_eq_some_iff] at h
  obtain ⟨p, last, rfl⟩ := h
  exact (List.mem_filter.mp (List.mem_of_getLast? last)).2

theorem isSome_lastWaiting?_iff :
    (lastWaiting? references points j).isSome = true ↔ ∃ p ∈ points, waitsFor references j p = true := by
  simp [lastWaiting?]

end SeriesScript.Series
