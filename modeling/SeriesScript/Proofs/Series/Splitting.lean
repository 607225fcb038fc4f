import Mathlib.Data.List.FinRange
import Mathlib.Data.List.SplitBy
import SeriesScript.Proofs.Series.Interleaving

/-!
# Splitting a series by its labels

The points with one of some labels and the points with none of them are complementary parts of a
series, each in the order of the series. Merged again, the parts give the series back up to the
order within the runs of simultaneous points: there the points with the labels come first.
-/
namespace SeriesScript.Series

variable {points run : List Point} {runs : List (List Point)} {f : Point → Bool}

def places (f : Point → Bool) (points : List Point) : List (Fin points.length) :=
  (List.finRange points.length).filter fun i => f (points.get i)

/-- Two lists take every place of a list of points once, in order: the first one the places of the
points with a property, and the second one all others. -/
def Splits (f : Point → Bool) (points taken others : List Point) : Prop :=
  ∃ i j : List (Fin points.length), i.map points.get = taken ∧ j.map points.get = others ∧
    i.Pairwise (· < ·) ∧ j.Pairwise (· < ·) ∧ (i ++ j).Perm (List.finRange points.length) ∧
    ∀ k, k ∈ i ↔ f (points.get k) = true

theorem map_places (f : Point → Bool) (points : List Point) :
    (places f points).map points.get = points.filter f := by
  calc (places f points).map points.get
    _ = ((List.finRange points.length).map points.get).filter f := by
      rw [List.filter_map]
      rfl
    _ = points.filter f := by rw [List.map_get_finRange]

theorem pairwise_places (f : Point → Bool) (points : List Point) :
    (places f points).Pairwise (· < ·) :=
  (List.pairwise_lt_finRange _).filter _

theorem splits_filter (f : Point → Bool) (points : List Point) :
    Splits f points (points.filter f) (points.filter (!f ·)) :=
  ⟨places f points, places (!f ·) points, map_places f points, map_places _ points,
    pairwise_places f points, pairwise_places _ points, List.filter_append_perm _ _, by simp [places]⟩

/-! ## Runs of simultaneous points -/

/-- The points cut where the instant changes. -/
def instantRuns (points : List Point) : List (List Point) :=
  points.splitBy fun p q => p.timestamp.instant == q.timestamp.instant

def bring (f : Point → Bool) (points : List Point) : List Point :=
  points.filter f ++ points.filter (!f ·)

theorem mem_bring {p : Point} : p ∈ bring f points ↔ p ∈ points := by
  simp only [bring, List.mem_append, List.mem_filter]
  cases f p <;> simp

theorem simultaneous_bring (instant : Int) (f : Point → Bool) (points : List Point) :
    simultaneous instant (bring f points) = bring f (simultaneous instant points) := by
  simp only [bring, simultaneous, List.filter_append, List.filter_filter, Bool.and_comm]

theorem instant_eq_of_mem_instantRuns (mem : run ∈ instantRuns points) {p q : Point} (hp : p ∈ run)
    (hq : q ∈ run) : p.timestamp.instant = q.timestamp.instant := by
  have chain := List.isChain_of_mem_splitBy mem
  have pairwise : (run.map fun p => p.timestamp.instant).Pairwise (· = ·) := by
    rw [← List.isChain_iff_pairwise, List.isChain_map]
    simpa using chain
  exact pairwise.forall_of_forall (fun _ _ => rfl) (List.mem_map_of_mem hp) (List.mem_map_of_mem hq)

def LiesBefore (run later : List Point) : Prop :=
  later ≠ [] ∧ ∀ p ∈ run, ∀ q ∈ later, p.timestamp.instant < q.timestamp.instant

instance : Trans LiesBefore LiesBefore LiesBefore where
  trans := by
    rintro run middle later ⟨filled, first⟩ ⟨some, second⟩
    obtain ⟨m, hm⟩ := List.exists_mem_of_ne_nil middle filled
    exact ⟨some, fun p hp q hq => (first p hp m hm).trans (second m hm q hq)⟩

theorem pairwise_instantRuns (ascending : Ascending points) :
    (instantRuns points).Pairwise LiesBefore := by
  rw [← List.flatten_splitBy (fun p q => p.timestamp.instant == q.timestamp.instant) points,
    Ascending, List.pairwise_flatten] at ascending
  -- neighbouring runs are ordered as their last and first points are, which differ in their instants
  rw [← List.isChain_iff_pairwise, List.isChain_iff_getElem]
  intro i hi
  have inside : (instantRuns points)[i] ∈ instantRuns points := List.getElem_mem _
  have inside' : (instantRuns points)[i + 1] ∈ instantRuns points := List.getElem_mem _
  obtain ⟨filled, filled', cut⟩ :=
    List.isChain_iff_getElem.mp (List.isChain_getLast_head_splitBy _ points) i hi
  have ordered := List.pairwise_iff_getElem.mp ascending.2 i (i + 1) _ hi (Nat.lt_succ_self i) _
    (List.getLast_mem filled) _ (List.head_mem filled')
  refine ⟨filled', fun p hp q hq => ?_⟩
  rw [instant_eq_of_mem_instantRuns inside hp (List.getLast_mem filled),
    instant_eq_of_mem_instantRuns inside' hq (List.head_mem filled')]
  exact lt_of_le_of_ne ordered (by simpa using cut)

/-! ## Merging the parts -/

/-- Bringing points to the front of every run brings them to the front at every instant, for the
points of an instant are all in one run. -/
theorem simultaneous_flatMap_bring (f : Point → Bool) (apart : runs.Pairwise LiesBefore)
    (instant : Int) :
    simultaneous instant (runs.flatMap (bring f)) = bring f (simultaneous instant runs.flatten) := by
  induction runs with
  | nil => rfl
  | cons run rest ih =>
    rw [List.pairwise_cons] at apart
    rw [List.flatMap_cons, List.flatten_cons, simultaneous_append, simultaneous_append,
      simultaneous_bring, ih apart.2]
    by_cases here : ∃ p ∈ run, p.timestamp.instant = instant
    · obtain ⟨p, hp, rfl⟩ := here
      have later : simultaneous p.timestamp.instant rest.flatten = [] := by
        apply simultaneous_eq_nil
        intro q mem
        obtain ⟨other, among, hq⟩ := List.mem_flatten.mp mem
        exact ((apart.1 other among).2 p hp q hq).ne'
      rw [later, List.append_nil]
      exact List.append_nil _
    · push Not at here
      rw [simultaneous_eq_nil here]
      rfl

/-- The points with a property are brought to the front of each run of simultaneous points. -/
def bringInRuns (f : Point → Bool) (points : List Point) : List Point :=
  (instantRuns points).flatMap (bring f)

theorem simultaneous_bringInRuns (ascending : Ascending points) (f : Point → Bool) (instant : Int) :
    simultaneous instant (bringInRuns f points) = bring f (simultaneous instant points) := by
  rw [bringInRuns, simultaneous_flatMap_bring f (pairwise_instantRuns ascending), instantRuns,
    List.flatten_splitBy]

theorem ascending_bringInRuns (ascending : Ascending points) (f : Point → Bool) :
    Ascending (bringInRuns f points) := by
  rw [Ascending, bringInRuns, List.pairwise_flatMap]
  constructor
  · intro run mem
    refine List.pairwise_of_forall_mem_list fun p hp q hq => Int.le_of_eq ?_
    exact instant_eq_of_mem_instantRuns mem (mem_bring.mp hp) (mem_bring.mp hq)
  · refine (pairwise_instantRuns ascending).imp fun before p hp q hq => ?_
    exact (before.2 p (mem_bring.mp hp) q (mem_bring.mp hq)).le

theorem stableSort_parts (ascending : Ascending points) (f : Point → Bool) :
    StableSort (bring f points) (merge [points.filter f, points.filter (!f ·)]) := by
  have parts : ∀ part ∈ [points.filter f, points.filter (!f ·)], Ascending part := by
    simp only [List.forall_mem_cons]
    exact ⟨ascending.sublist List.filter_sublist, ascending.sublist List.filter_sublist, by simp⟩
  simpa [bring] using stableSort_merge parts

theorem merge_parts (ascending : Ascending points) (f : Point → Bool) :
    merge [points.filter f, points.filter (!f ·)] = bringInRuns f points := by
  have stable := stableSort_parts ascending f
  refine eq_of_simultaneous_eq stable.ascending (ascending_bringInRuns ascending f) fun instant => ?_
  rw [stable.ties, simultaneous_bringInRuns ascending, simultaneous_bring]

theorem bringInRuns_of_distinct (ascending : Ascending points) (distinct : DistinctInstants points)
    (f : Point → Bool) : bringInRuns f points = points := by
  have perm : (bringInRuns f points).Perm points := by
    rw [← merge_parts ascending]
    exact (stableSort_parts ascending f).perm.trans (List.filter_append_perm f points)
  exact eq_of_simultaneous_eq (ascending_bringInRuns ascending f) ascending
    (distinct.simultaneous_eq perm)

/-! ## Calls -/

def labelled (labels : List String) (p : Point) : Bool := labels.contains p.label

theorem select_true (labels : List String) (points : List Point) :
    select true labels points = points.filter (labelled labels) :=
  List.filter_congr fun _ _ => beq_true _

theorem select_false (labels : List String) (points : List Point) :
    select false labels points = points.filter (!labelled labels ·) :=
  List.filter_congr fun _ _ => beq_false _

theorem callFunction_selection (prefs : Window.Preferences) (hardStart : Option Timestamp)
    {s : Series} {labels : List String} (categorical : s.kind = .categorical) (some : labels ≠ [])
    (keep : Bool) :
    callFunction prefs hardStart (if keep then "Filter" else "Exclude")
        (.series s :: labels.map Value.text) =
      .ok (.series ⟨select keep labels s.points, .categorical⟩) := by
  rw [← categorical]
  refine callFunction_of_prepare ?_ (Function.prepare_selection categorical some keep) rfl
  cases keep <;> rfl

/-- Filtering and excluding by the same labels split a categorical series. Merging the two parts
brings the points with the labels to the front of each run of simultaneous points and moves nothing
else, so the series comes back if its instants are distinct. -/
theorem merge_filter_exclude (prefs : Window.Preferences) (hardStart : Option Timestamp) (s : Series)
    (labels : List String) (categorical : s.kind = .categorical) (ascending : Ascending s.points)
    (some : labels ≠ []) :
    ∃ kept others,
      callFunction prefs hardStart "Filter" (.series s :: labels.map Value.text) =
        .ok (.series ⟨kept, .categorical⟩) ∧
      callFunction prefs hardStart "Exclude" (.series s :: labels.map Value.text) =
        .ok (.series ⟨others, .categorical⟩) ∧
      Splits (labelled labels) s.points kept others ∧
      callFunction prefs hardStart "Merge"
          [.series ⟨kept, .categorical⟩, .series ⟨others, .categorical⟩] =
        .ok (.series ⟨bringInRuns (labelled labels) s.points, .categorical⟩) ∧
      (DistinctInstants s.points → bringInRuns (labelled labels) s.points = s.points) := by
  have filtered := callFunction_selection prefs hardStart categorical some true
  have excluded := callFunction_selection prefs hardStart categorical some false
  rw [select_true] at filtered
  rw [select_false] at excluded
  refine ⟨_, _, filtered, excluded, splits_filter _ _, ?_,
    fun distinct => bringInRuns_of_distinct ascending distinct _⟩
  rw [← merge_parts ascending]
  have alike : ∀ part ∈ [(⟨s.points.filter (labelled labels), .categorical⟩ : Series),
      ⟨s.points.filter (!labelled labels ·), .categorical⟩], part.kind = .categorical := by
    simp
  exact callFunction_of_prepare (f := .merge) rfl (Function.prepare_merge le_rfl alike) rfl

def moods : List Point :=
  [⟨⟨1, 0⟩, .ofFloat 1, "sad"⟩, ⟨⟨1, 3600⟩, .ofFloat 2, "happy"⟩, ⟨⟨2, 0⟩, .ofFloat 3, ""⟩]

theorem merge_filter_exclude_moods :
    Ascending moods ∧ ["happy", "angry", "happy"] ≠ [] ∧ ∃ kept others,
      Splits (labelled ["happy", "angry", "happy"]) moods kept others ∧
      callFunction .default none "Merge"
          [.series ⟨kept, .categorical⟩, .series ⟨others, .categorical⟩] =
        .ok (.series ⟨[⟨⟨1, 3600⟩, .ofFloat 2, "happy"⟩, ⟨⟨1, 0⟩, .ofFloat 1, "sad"⟩,
          ⟨⟨2, 0⟩, .ofFloat 3, ""⟩], .categorical⟩) := by
  have ascending : Ascending moods := by simp [moods, Ascending]
  obtain ⟨kept, others, -, -, splits, merged, -⟩ := merge_filter_exclude .default none
    ⟨moods, .categorical⟩ ["happy", "angry", "happy"] rfl ascending (by simp)
  exact ⟨ascending, by simp, kept, others, splits, merged⟩

end SeriesScript.Series
