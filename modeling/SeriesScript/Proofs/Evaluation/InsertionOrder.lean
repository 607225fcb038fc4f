import SeriesScript.Proofs.Evaluation.InStep
import SeriesScript.Proofs.Evaluation.OldestFirst
import SeriesScript.Proofs.Evaluation.Origins
import SeriesScript.Proofs.Evaluation.Streams

/-!
# The order of the streams

Streams are bound in the order in which they were put in, and only `Bin` sees that order: it begins
at the earliest time of all bound series, the first of several that are the same instant. On clocks
of one offset such times are equal, so the order of the streams does not matter to a run.
-/
namespace SeriesScript

variable {prefs : Window.Preferences} {b b' next next' start : Bindings}
  {program : List Statement} {given given' : List String} {name : String} {v : Value}
  {offset : Int}

/-! ## Bindings in another order -/

/-- The same bindings, but the names that were given first may stand in another order. -/
structure Bindings.Reordered (given given' : List String) (b b' : Bindings) : Prop where
  perm : b'.toList.Perm b.toList
  names : ∃ declared, b.names = given ++ declared ∧ b'.names = given' ++ declared

namespace Bindings.Reordered

theorem get?_eq (h : Reordered given given' b b') (name : String) : b'.get? name = b.get? name := by
  ext v
  rw [get?_eq_some_iff, get?_eq_some_iff, h.perm.mem_iff]

theorem declare (h : Reordered given given' b b') (declared : b.declare? name v = some next)
    (declared' : b'.declare? name v = some next') : Reordered given given' next next' where
  perm := by
    rw [toList_of_declare? declared, toList_of_declare? declared']
    exact h.perm.append_right _
  names := by
    obtain ⟨others, hb, hb'⟩ := h.names
    refine ⟨others ++ [name], ?_, ?_⟩
    · rw [Bindings.names, toList_of_declare? declared, List.map_append, ← List.append_assoc, ← hb]
      rfl
    · rw [Bindings.names, toList_of_declare? declared', List.map_append, ← List.append_assoc, ← hb']
      rfl

theorem assign (h : Reordered given given' b b') (assigned : b.assign? name v = some next)
    (assigned' : b'.assign? name v = some next') : Reordered given given' next next' where
  perm := by
    rw [toList_of_assign?_eq_map assigned, toList_of_assign?_eq_map assigned']
    exact h.perm.map _
  names := by
    rw [names_of_assign? assigned, names_of_assign? assigned']
    exact h.names

/-- Among times of one offset, the earliest does not depend on the order. -/
theorem earliest?_eq (h : Reordered given given' b b')
    (offsets : ∀ t ∈ b.firstTimes, t.offset = offset) : b'.earliest? = b.earliest? := by
  have times : b'.firstTimes.Perm b.firstTimes := h.perm.filterMap _
  cases found : b.earliest? with
  | none =>
    rw [earliest?_eq_none_iff] at found ⊢
    rw [found] at times
    exact times.eq_nil
  | some t =>
    obtain ⟨mem, least⟩ := earliest?_mem_firstTimes found
    cases found' : b'.earliest? with
    | none =>
      rw [earliest?_eq_none_iff.mp found'] at times
      rw [times.nil_eq.symm] at mem
      cases mem
    | some u =>
      obtain ⟨mem', least'⟩ := earliest?_mem_firstTimes found'
      have instants : u.instant = t.instant :=
        Int.le_antisymm (least' t (times.mem_iff.mpr mem)) (least u (times.mem_iff.mp mem'))
      have same : u.offset = t.offset :=
        (offsets u (times.mem_iff.mp mem')).trans (offsets t mem).symm
      cases t
      cases u
      cases instants
      cases same
      rfl

end Bindings.Reordered

def Correspondence.reordered (given given' : List String) : Correspondence :=
  .ofEq (Bindings.Reordered given given') (fun bound name => bound.get?_eq name)
    Bindings.Reordered.declare Bindings.Reordered.assign

/-! ## One offset -/

/-- A series with points on clocks of one offset, or any other value. -/
abbrev Value.OnClock (offset : Int) : Value → Prop := MarkedBy fun m => m.1.offset = offset

namespace Bindings.All

theorem firstTimes_offset (all : b.All (Value.OnClock offset)) {t : Timestamp}
    (mem : t ∈ b.firstTimes) : t.offset = offset := by
  obtain ⟨name, s, p, rest, bound, points, rfl⟩ := mem_firstTimes.mp mem
  have marked : p.mark ∈ Series.marks s.points := by
    rw [points]
    exact List.mem_cons_self
  exact all name _ bound s rfl p.mark marked

end Bindings.All

/-- Where all bound series are on clocks of one offset, so are the windows of `Bin`. -/
theorem Application.BinBoundary.offset_eq {a : Application} {t : Timestamp}
    (h : a.BinBoundary prefs b t) (operands : ∀ x ∈ a.operands, x.OnClock offset)
    (all : b.All (Value.OnClock offset)) : t.offset = offset := by
  obtain ⟨args, data, r, window, fallback, rfl, prepared, here⟩ := h
  apply here.offset_eq
  · intro p mem
    have input := Function.bin.prepare_gives args _ prepared data List.mem_cons_self
    exact operands _ input data rfl p.mark (List.mem_map_of_mem mem)
  · intro earliest found
    exact all.firstTimes_offset (Bindings.earliest?_mem_firstTimes found).1

theorem Program.upholds_onClock (prefs : Window.Preferences) (start : Bindings)
    (program : List Statement) (offset : Int) :
    Upholds prefs start program (Value.OnClock offset) where
  literal l s hs := by cases l <;> cases hs
  application _ _ _ _ _ _ all _ _ :=
    Application.keeps_markedBy fun operands _ here => here.offset_eq operands all

/-! ## The start of a run -/

/-- The series of a stream, without points if it has no content. -/
def PointStream.contents (s : PointStream) : Series :=
  ⟨arrange s.order (s.content.toOption.getD []), s.kind⟩

theorem PointStream.Readable.series_eq_contents {s : PointStream} (h : s.Readable) (name : String) :
    s.series name = .ok s.contents := by
  obtain ⟨points, content, read⟩ := h.series_eq name
  rw [read, contents, content]
  rfl

theorem Store.toList_bindAll {streams : List (String × PointStream)}
    (readable : ∀ entry ∈ streams, entry.2.Readable)
    (distinct : (b.names ++ streams.map Prod.fst).Nodup) :
    ∃ start, bindAll streams b = .ok start ∧
      start.toList = b.toList ++ streams.map fun entry => (entry.1, .series entry.2.contents) := by
  induction streams generalizing b with
  | nil => exact ⟨b, rfl, by simp⟩
  | cons entry rest ih =>
    obtain ⟨name, s⟩ := entry
    obtain ⟨first, others⟩ := List.forall_mem_cons.mp readable
    have free : b.contains name = false := by
      rw [← Bool.not_eq_true, Bindings.contains_iff_mem_names]
      exact fun mem => (List.nodup_append.mp distinct).2.2 _ mem _ List.mem_cons_self rfl
    obtain ⟨next, declared, entries⟩ :=
      Bindings.declare?_of_not_contains free (.series s.contents)
    have names : next.names = b.names ++ [name] := by
      rw [Bindings.names, entries, List.map_append]
      rfl
    have distinct' : (next.names ++ rest.map Prod.fst).Nodup := by simpa [names] using distinct
    obtain ⟨start, bound, all⟩ := ih others distinct'
    refine ⟨start, ?_, ?_⟩
    · rw [bindAll, first.series_eq_contents name]
      simpa [declared] using bound
    · rw [all, entries]
      simp

theorem Store.bindings_of_distinct {streams : List (String × PointStream)}
    (readable : ∀ entry ∈ streams, entry.2.Readable)
    (distinct : (streams.map Prod.fst).Nodup) :
    ∃ start, (ofList streams).bindings = .ok start ∧
      start.toList = streams.map fun entry => (entry.1, .series entry.2.contents) := by
  rw [bindings, streams_ofList distinct]
  exact toList_bindAll (b := .empty) readable distinct

/-- The order in which streams are put into a store does not matter to a run of a program, if all
streams can be read and all their points are on clocks of one offset. Whatever the order, the run
prints the same and fails with the same error, or it ends with the same value under each name, where
the declared variables follow in the same order behind the streams. -/
theorem Program.evaluate_insertionOrder (prefs : Window.Preferences) (program : List Statement)
    (streams streams' : List (String × PointStream)) (offset : Int)
    (perm : streams'.Perm streams) (distinct : (streams.map Prod.fst).Nodup)
    (readable : ∀ entry ∈ streams, entry.2.Readable)
    (one_offset : ∀ entry ∈ streams, ∀ points, entry.2.content = .ok points →
      ∀ p ∈ points, p.timestamp.offset = offset) :
    let o := evaluate prefs (.ofList streams) program
    let o' := evaluate prefs (.ofList streams') program
    o'.printed = o.printed ∧
      Matched Eq (fun b b' => (∀ name, b'.get? name = b.get? name) ∧
        ∃ declared, b.names = streams.map Prod.fst ++ declared ∧
          b'.names = streams'.map Prod.fst ++ declared) o.result o'.result := by
  intro o o'
  let C := Correspondence.reordered (streams.map Prod.fst) (streams'.map Prod.fst)
  have distinct' : (streams'.map Prod.fst).Nodup := (perm.map Prod.fst).nodup_iff.mpr distinct
  obtain ⟨start, seeded, entries⟩ := Store.bindings_of_distinct readable distinct
  obtain ⟨start', seeded', entries'⟩ :=
    Store.bindings_of_distinct (fun entry mem => readable entry (perm.mem_iff.mp mem)) distinct'
  have bound : C.bindings start start' := by
    refine ⟨?_, [], ?_, ?_⟩
    · rw [entries, entries']
      exact perm.map _
    · simp [Bindings.names, entries, Function.comp_def]
    · simp [Bindings.names, entries', Function.comp_def]
  have all : start.All (Value.OnClock offset) := by
    refine Store.bindings_markedBy ?_ seeded
    rintro m ⟨name, s, points, p, mem, content, hp, rfl⟩
    rw [Store.streams_ofList distinct] at mem
    exact one_offset _ mem points content p hp
  have seeds : C.Matches C.bindings (Store.ofList streams).bindings
      (Store.ofList streams').bindings := by
    rw [seeded, seeded']
    exact .ok bound
  have outcomes : C.Outcomes o o' := by
    have run := C.evaluation prefs program seeds (fun _ _ _ _ => trivial) ?_
    · rwa [show Program.rename C.rename program = program from Program.rename_id program] at run
    · intro c₀ c₀' h₀ _ k c c' _ _ s reached _ here _
      cases seeded.symm.trans h₀
      have times : c'.earliest? = c.earliest? := by
        have reached_all := ((upholds_onClock prefs start program offset).reaches all reached).1
        exact here.earliest?_eq fun t mem => reached_all.firstTimes_offset mem
      exact Correspondence.callsMatch_of_eq rfl fun name args _ => by rw [times]
  refine ⟨Correspondence.Outcomes.printed_eq_of_eq rfl outcomes, outcomes.result.imp ?_ ?_⟩
  · rintro e e' rfl
    exact e.rename_id.symm
  · exact fun b b' here => ⟨here.get?_eq, here.names⟩

/-- Two streams of a point each, both on clocks one hour ahead. -/
def Store.loadAndPrice : List (String × PointStream) :=
  [("load", .ofPoints .numerical .oldestFirst [⟨⟨1709251200000000000, 3600⟩, .ofFloat 1, "a"⟩]),
   ("price", .ofPoints .time .newestFirst [⟨⟨1700000000000000000, 3600⟩, .ofFloat 2, "b"⟩])]

/-- The price comes first in time, so the months of the load begin with it, in either order. -/
theorem Program.evaluate_insertionOrder_loadAndPrice :
    let o := evaluate .default (.ofList Store.loadAndPrice) monthlyCounts
    let o' := evaluate .default (.ofList Store.loadAndPrice.reverse) monthlyCounts
    Store.loadAndPrice.reverse.Perm Store.loadAndPrice ∧
      (Store.loadAndPrice.map Prod.fst).Nodup ∧
      (∀ entry ∈ Store.loadAndPrice, entry.2.Readable) ∧
      o'.printed = o.printed ∧
      Matched Eq (fun b b' => b'.get? "price" = b.get? "price") o.result o'.result := by
  intro o o'
  have perm : Store.loadAndPrice.reverse.Perm Store.loadAndPrice := List.reverse_perm _
  have distinct : (Store.loadAndPrice.map Prod.fst).Nodup := by decide
  have readable : ∀ entry ∈ Store.loadAndPrice, entry.2.Readable := by
    simp [Store.loadAndPrice, PointStream.Readable, PointStream.ofPoints]
  have one_offset : ∀ entry ∈ Store.loadAndPrice, ∀ points, entry.2.content = .ok points →
      ∀ p ∈ points, p.timestamp.offset = 3600 := by
    simp [Store.loadAndPrice, PointStream.ofPoints]
  obtain ⟨printed, result⟩ := evaluate_insertionOrder .default monthlyCounts Store.loadAndPrice
    Store.loadAndPrice.reverse 3600 perm distinct readable one_offset
  exact ⟨perm, distinct, readable, printed,
    result.imp (fun _ _ same => same) fun _ _ h => h.1 "price"⟩

end SeriesScript
