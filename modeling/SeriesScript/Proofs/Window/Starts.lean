import SeriesScript.Proofs.Window.Boundaries

/-!
# Where the windows of bins start

A bin shows where its window ends; where it starts follows from the windows before it. All windows
start by the latest time to be covered, and the last one of them ends behind it. On the real clock
that time is the one of the last point or, if it is later, the end time put off by the start of the
day: the end time is not set back as the points are.
-/
namespace SeriesScript.Window

variable {window : TimeAmount} {prefs : Preferences} {hardStart : Option Timestamp}
  {latest start stop earliest : Timestamp} {laid : List Tile} {points : List Point}
  {bins : List Bin} {s : Nat → Timestamp}

/-- The times at which the windows of bins start, on the shifted clock, from the calendar window
that holds the earliest time on; the last window ends where one more would start. -/
structure Starts (window : TimeAmount) (prefs : Preferences) (earliest : Timestamp)
    (bins : List Bin) (s : Nat → Timestamp) : Prop where
  begins : s 0 = beginning window prefs.firstDayOfWeek earliest
  next : ∀ i, i < bins.length → advance? window (s i) = some (s (i + 1))
  stamped : ∀ i (hi : i < bins.length), bins[i].timestamp = prefs.stamp (s (i + 1))

theorem Starts.offset_eq (h : Starts window prefs earliest bins s) {i : Nat} (hi : i ≤ bins.length) :
    (s i).offset = earliest.offset := by
  induction i with
  | zero => rw [h.begins, beginning_offset]
  | succ i ih => rw [offset_of_advance? (h.next i hi), ih (by omega)]

/-- The last boundary of tiles laid end to end is where they stop. -/
theorem Laid.stop_eq (h : Laid window start laid stop) (begins : s 0 = start)
    (step : ∀ i (hi : i < laid.length), laid[i] = ⟨s i, s (i + 1)⟩) : s laid.length = stop := by
  induction laid generalizing start s with
  | nil => exact begins.trans h
  | cons tile rest ih =>
    have ends : s 1 = tile.stop := by
      have := step 0 (by simp)
      simp at this
      simp [this]
    have later : ∀ i (hi : i < rest.length), rest[i] = ⟨s (i + 1), s (i + 1 + 1)⟩ :=
      fun i hi => step (i + 1) (by simpa using hi)
    simpa using ih h.2.2.2 ends later

theorem length_fill (prefs : Preferences) (laid : List Tile) (points : List Point) :
    (fill prefs laid points).length = laid.length := by
  induction laid generalizing points with
  | nil => rfl
  | cons tile rest ih => simp [fill, ih]

theorem beginning_le_shift (found : earliest? prefs hardStart points = some earliest)
    (sorted : Series.Ascending points) {p : Point} (mem : p ∈ points) :
    (beginning window prefs.firstDayOfWeek earliest).instant ≤
      (prefs.shift p.timestamp).instant :=
  (beginning_le window prefs.firstDayOfWeek earliest).trans (earliest?_le found sorted mem)

/-- Fixed windows start by the latest time to be covered and the last of them ends behind it. Each
takes points from its start on and before the start of the next one. -/
theorem exists_starts (h : fixed window prefs hardStart points = .ok bins)
    (found : earliest? prefs hardStart points = some earliest) (sorted : Series.Ascending points) :
    ∃ s, Starts window prefs earliest bins s ∧
      (Window.latest prefs points earliest).instant < (s bins.length).instant ∧
      ∀ i (hi : i < bins.length), (s i).instant ≤ (Window.latest prefs points earliest).instant ∧
        ∀ p ∈ bins[i].parents, (s i).instant ≤ (prefs.shift p.timestamp).instant ∧
          (prefs.shift p.timestamp).instant < (s (i + 1)).instant := by
  rcases tiles_of_fixed h with ⟨none, -⟩ | ⟨_, laid, some, ok, rfl⟩
  · rw [found] at none
    cases none
  cases found.symm.trans some
  obtain ⟨stop, laidOut, beyond⟩ := laid_of_tiles ok
  obtain ⟨s, begins, step⟩ := laidOut.exists_boundaries
  have filled := forall₂_fill laidOut sorted fun p mem => beginning_le_shift found sorted mem
  have length := length_fill prefs laid points
  have covers (i : Nat) (hi : i < (fill prefs laid points).length) :
      Covers prefs ⟨s i, s (i + 1)⟩ (fill prefs laid points)[i] := by
    have tile := (step i (length ▸ hi)).1
    rw [← tile]
    exact (List.forall₂_iff_get.mp filled).2 i (length ▸ hi) hi
  refine ⟨s, ⟨begins, ?_, ?_⟩, ?_, ?_⟩
  · intro i hi
    exact (step i (length ▸ hi)).2.1
  · intro i hi
    exact (covers i hi).stamped
  · rw [length, laidOut.stop_eq begins fun i hi => (step i hi).1]
    exact beyond
  · intro i hi
    have before := (within_of_mem_tiles ok (List.getElem_mem (length ▸ hi : i < laid.length))).1
    rw [(step i (length ▸ hi)).1] at before
    exact ⟨before, (covers i hi).inside⟩

theorem flatMap_parents_fixed (h : fixed window prefs hardStart points = .ok bins)
    (sorted : Series.Ascending points) : bins.flatMap Bin.parents = points := by
  rcases fixed_eq_ok h with ⟨none, rfl⟩ | ⟨earliest, laid, stop, found, laidOut, beyond, rfl⟩
  · exact (eq_nil_of_earliest?_eq_none none).symm
  · refine flatMap_parents_fill laidOut sorted (fun p mem => ?_) fun p mem => ?_
    · exact beginning_le_shift found sorted mem
    · exact lt_of_le_of_lt (le_latest sorted mem) beyond

/-! ## The last window -/

/-- The later one of the time of the last point and the end time, if the end time is put off. -/
def Preferences.lastMoment (prefs : Preferences) (delay : Int) (last : Timestamp) : Int :=
  match prefs.endTime with
  | some t => max last.instant (t.instant + delay)
  | none => last.instant

/-- No bin starts after a moment, on the real clock, and the last one reaches up to it. -/
def LastHolds (prefs : Preferences) (bins : List Bin) (s : Nat → Timestamp) (moment : Int) : Prop :=
  (∀ i < bins.length, (s i).instant + prefs.startOfDay.nanos ≤ moment) ∧
    ∃ bin, bins.getLast? = some bin ∧ moment ≤ bin.timestamp.instant

/-- On the real clock, the latest time to be covered has the end time put off by the start of the
day. -/
theorem latest_instant (prefs : Preferences) (earliest : Timestamp) {last : Point}
    (hlast : points.getLast? = some last) :
    (Window.latest prefs points earliest).instant + prefs.startOfDay.nanos =
      prefs.lastMoment prefs.startOfDay.nanos last.timestamp := by
  rw [Window.latest, Preferences.lastMoment, hlast]
  cases prefs.endTime with
  | none => simp
  | some t =>
    simp
    omega

theorem Preferences.lastMoment_mono (prefs : Preferences) (last : Timestamp) {delay later : Int}
    (le : delay ≤ later) : prefs.lastMoment delay last ≤ prefs.lastMoment later last := by
  rw [lastMoment, lastMoment]
  cases prefs.endTime with
  | none => exact le_rfl
  | some t => exact max_le_max_left _ (Int.add_le_add_left le _)

/-- The last bin holds the time of the last point, and the end time put off by the start of the day.
So it reaches beyond the end time, but it need not have started by then. -/
theorem fixed_last_holds (window : TimeAmount) (prefs : Preferences) (hardStart : Option Timestamp)
    (points : List Point) (bins : List Bin) (last : Point) (sorted : Series.Ascending points)
    (hlast : points.getLast? = some last)
    (h : fixed window prefs hardStart points = .ok bins) :
    ∃ earliest s, earliest? prefs hardStart points = some earliest ∧
      Starts window prefs earliest bins s ∧
      LastHolds prefs bins s (prefs.lastMoment prefs.startOfDay.nanos last.timestamp) ∧
      (0 ≤ prefs.startOfDay.nanos → ∃ bin, bins.getLast? = some bin ∧
        prefs.lastMoment 0 last.timestamp ≤ bin.timestamp.instant) := by
  have mem : last ∈ points := List.mem_of_getLast? hlast
  obtain ⟨earliest, found⟩ : ∃ earliest, earliest? prefs hardStart points = some earliest := by
    rw [← Option.isSome_iff_exists, Option.isSome_iff_ne_none]
    intro none
    rw [eq_nil_of_earliest?_eq_none none] at mem
    cases mem
  obtain ⟨s, starts, beyond, inside⟩ := exists_starts h found sorted
  have covered := latest_instant prefs earliest hlast
  have begun : (s 0).instant ≤ (Window.latest prefs points earliest).instant := by
    rw [starts.begins]
    exact (beginning_le_shift found sorted mem).trans (le_latest sorted mem)
  have nonempty : bins.length ≠ 0 := by
    intro none
    rw [none] at beyond
    omega
  have stamp : ∃ bin, bins.getLast? = some bin ∧
      prefs.lastMoment prefs.startOfDay.nanos last.timestamp ≤ bin.timestamp.instant := by
    refine ⟨bins[bins.length - 1], by rw [List.getLast?_eq_getElem?, List.getElem?_eq_getElem], ?_⟩
    rw [starts.stamped, Preferences.stamp_instant, Nat.sub_add_cancel (by omega)]
    omega
  refine ⟨earliest, s, found, starts, ⟨fun i hi => ?_, stamp⟩, fun forward => ?_⟩
  · have := (inside i hi).1
    omega
  · obtain ⟨bin, hbin, reached⟩ := stamp
    exact ⟨bin, hbin, (prefs.lastMoment_mono _ forward).trans reached⟩

def mayDay : List Point := [⟨⟨1714557600000000000, 0⟩, .ofFloat 1, "a"⟩]

/-- The end time is two o'clock on the second of May, still on the day of the first. -/
def upToSmallHours : Preferences :=
  ⟨.monday, ⟨14400000000000, by decide⟩, some ⟨1714615200000000000, 0⟩⟩

theorem fixed_smallHours :
    ∃ bins, fixed (.period ⟨0, 0, 1⟩) upToSmallHours none mayDay = .ok bins ∧ bins.length = 2 := by
  have length : (fixed (.period ⟨0, 0, 1⟩) upToSmallHours none mayDay).toOption.map List.length =
      some 2 := by
    decide +kernel
  generalize fixed _ _ _ mayDay = r at length ⊢
  cases r with
  | error e => cases length
  | ok bins => exact ⟨bins, rfl, Option.some.inj length⟩

theorem ascending_mayDay : Series.Ascending mayDay := List.pairwise_singleton _ _

theorem fixed_last_holds_smallHours :
    ∃ bins earliest s, fixed (.period ⟨0, 0, 1⟩) upToSmallHours none mayDay = .ok bins ∧
      Starts (.period ⟨0, 0, 1⟩) upToSmallHours earliest bins s ∧
      LastHolds upToSmallHours bins s 1714629600000000000 := by
  obtain ⟨bins, h, -⟩ := fixed_smallHours
  obtain ⟨earliest, s, -, starts, holds, -⟩ :=
    fixed_last_holds _ _ _ _ bins _ ascending_mayDay rfl h
  exact ⟨bins, earliest, s, h, starts, holds⟩

/-- The last bin may start after both the last point and the end time: here it starts at four
o'clock on the second of May. -/
theorem not_fixed_last_holds_endTime :
    ¬ ∀ (window : TimeAmount) (prefs : Preferences) (hardStart : Option Timestamp)
      (points : List Point) (bins : List Bin) (last : Point) (length : Duration),
      positiveLength window = .ok length → 0 ≤ prefs.startOfDay.nanos →
      prefs.startOfDay.nanos < nanosPerDay → Series.Ascending points →
      points.getLast? = some last → fixed window prefs hardStart points = .ok bins →
      ∃ earliest s, earliest? prefs hardStart points = some earliest ∧
        Starts window prefs earliest bins s ∧
        LastHolds prefs bins s (prefs.lastMoment 0 last.timestamp) := by
  intro claimed
  obtain ⟨bins, h, two⟩ := fixed_smallHours
  obtain ⟨earliest, s, found, starts, begun, -⟩ :=
    claimed _ _ _ _ bins _ ⟨86400000000000, by decide⟩ rfl (by decide) (by decide)
      ascending_mayDay rfl h
  have morning : earliest = ⟨1714543200000000000, 0⟩ := Option.some.inj (found.symm.trans rfl)
  have first : s 0 = ⟨1714521600000000000, 0⟩ := by
    rw [starts.begins, morning]
    decide +kernel
  have second : some (s 1) = some ⟨1714608000000000000, 0⟩ := by
    rw [← starts.next 0 (by omega), first]
    decide +kernel
  have late := begun 1 (by omega)
  rw [Option.some.inj second] at late
  exact absurd late (by decide)

end SeriesScript.Window
