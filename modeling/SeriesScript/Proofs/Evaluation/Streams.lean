import Mathlib.Data.List.Basic
import SeriesScript.Evaluation.Session

/-!
# The streams of a store

A store answers for its streams by their names and by what was put in. How often a stream was read
shows nowhere, disposing of all streams keeps their names and order, and a stream that is put in
takes the place of the one that had its name.
-/
namespace SeriesScript

/-! ## Reads do not count -/

namespace PointStream

def unread (s : PointStream) : PointStream := { s with reads := 0 }

@[simp] theorem unread_unread (s : PointStream) : s.unread.unread = s.unread := rfl

@[simp] theorem unread_read (s : PointStream) : s.read.unread = s.unread := by
  rw [read]
  split <;> rfl

@[simp] theorem series_unread (s : PointStream) (name : String) :
    s.unread.series name = s.series name := rfl

end PointStream

namespace Store

def unread (store : Store) : Store :=
  ⟨store.streams.map fun entry => (entry.1, entry.2.unread)⟩

@[simp] theorem unread_unread (store : Store) : store.unread.unread = store.unread := by
  simp [unread]

@[simp] theorem names_unread (store : Store) : store.unread.names = store.names := by
  simp [unread, names]

theorem lookup_map (f : PointStream → PointStream) (streams : List (String × PointStream))
    (name : String) :
    (streams.map fun entry => (entry.1, f entry.2)).lookup name = (streams.lookup name).map f := by
  induction streams with
  | nil => rfl
  | cons entry rest ih =>
    rw [List.map_cons, List.lookup_cons, List.lookup_cons, ih]
    split <;> rfl

@[simp] theorem get?_unread (store : Store) (name : String) :
    store.unread.get? name = (store.get? name).map PointStream.unread :=
  lookup_map PointStream.unread store.streams name

@[simp] theorem get?_disposeAll (store : Store) (name : String) :
    store.disposeAll.get? name = (store.get? name).map PointStream.dispose :=
  lookup_map PointStream.dispose store.streams name

@[simp] theorem names_disposeAll (store : Store) : store.disposeAll.names = store.names := by
  simp [disposeAll, names]

@[simp] theorem unread_disposeAll (store : Store) :
    store.unread.disposeAll.unread = store.disposeAll.unread := by
  simp [unread, disposeAll, PointStream.unread, PointStream.dispose]

theorem bindAll_unread (streams : List (String × PointStream)) (b : Bindings) :
    bindAll (streams.map fun entry => (entry.1, entry.2.unread)) b = bindAll streams b := by
  induction streams generalizing b with
  | nil => rfl
  | cons entry rest ih => simp only [List.map_cons, bindAll, PointStream.series_unread, ih]

@[simp] theorem bindings_unread (store : Store) : store.unread.bindings = store.bindings :=
  bindAll_unread store.streams .empty

@[simp] theorem unread_afterRun (store : Store) : store.afterRun.unread = store.unread := by
  rw [afterRun, unread, unread]
  congr 1
  induction store.streams with
  | nil => rfl
  | cons entry rest ih =>
    obtain ⟨name, s⟩ := entry
    rw [readAll]
    split
    · rw [List.map_cons, List.map_cons, ih, PointStream.unread_read]
    · rfl

/-! ## Insertions -/

theorem unread_insertInto (name : String) (s : PointStream) (streams : List (String × PointStream)) :
    (insertInto name s streams).map (fun entry => (entry.1, entry.2.unread)) =
      insertInto name s.unread (streams.map fun entry => (entry.1, entry.2.unread)) := by
  induction streams with
  | nil => rfl
  | cons entry rest ih =>
    simp only [insertInto, List.map_cons]
    split
    · rfl
    · rw [List.map_cons, ih]

@[simp] theorem unread_insert (store : Store) (name : String) (s : PointStream) :
    (store.insert name s).unread = store.unread.insert name s.unread := by
  rw [unread, insert, insert, unread_insertInto]
  rfl

/-- A new name comes last, and a known one keeps its place. -/
theorem names_insert (store : Store) (name : String) (s : PointStream) :
    (store.insert name s).names =
      if name ∈ store.names then store.names else store.names ++ [name] := by
  rw [names, names, insert]
  induction store.streams with
  | nil => rfl
  | cons entry rest ih =>
    simp only [insertInto]
    by_cases h : entry.1 = name
    · simp [h]
    · rw [if_neg h, List.map_cons, ih]
      simp only [List.map_cons, List.mem_cons, Ne.symm h, false_or]
      split <;> rfl

theorem get?_insert (store : Store) (name other : String) (s : PointStream) :
    (store.insert name s).get? other = if other = name then some s else store.get? other := by
  rw [get?, get?, insert]
  induction store.streams with
  | nil =>
    by_cases h : other = name
    · simp [insertInto, h]
    · simp [insertInto, List.lookup_cons, beq_false_of_ne h, h]
  | cons entry rest ih =>
    obtain ⟨first, t⟩ := entry
    simp only [insertInto]
    by_cases h : first = name
    · subst h
      by_cases ho : other = first
      · simp [ho]
      · simp [List.lookup_cons, beq_false_of_ne ho, ho]
    · rw [if_neg h, List.lookup_cons, List.lookup_cons, ih]
      by_cases ho : other = first
      · subst ho
        simp [h]
      · simp only [beq_false_of_ne ho]

variable {name : String} {s : PointStream} {streams : List (String × PointStream)}
  {entry : String × PointStream}

theorem mem_insertInto (mem : entry ∈ insertInto name s streams) :
    entry = (name, s) ∨ entry ∈ streams := by
  induction streams with
  | nil => simpa [insertInto] using mem
  | cons first rest ih =>
    rw [insertInto] at mem
    split at mem
    · rename_i same
      rw [same, List.mem_cons] at mem
      exact mem.imp_right (List.mem_cons_of_mem _)
    · rcases List.mem_cons.mp mem with rfl | mem
      · exact .inr List.mem_cons_self
      · exact (ih mem).imp_right (List.mem_cons_of_mem _)

theorem mem_ofList (mem : entry ∈ (ofList streams).streams) : entry ∈ streams := by
  suffices ∀ store : Store,
      entry ∈ (streams.foldl (fun store entry => store.insert entry.1 entry.2) store).streams →
        entry ∈ store.streams ∨ entry ∈ streams from
    (this empty mem).resolve_left (List.not_mem_nil)
  clear mem
  induction streams with
  | nil => exact fun store mem => .inl mem
  | cons first rest ih =>
    intro store mem
    rcases ih _ mem with mem | mem
    · rcases mem_insertInto mem with rfl | mem
      · exact .inr List.mem_cons_self
      · exact .inl mem
    · exact .inr (List.mem_cons_of_mem _ mem)

theorem insertInto_of_not_mem (new : name ∉ streams.map Prod.fst) (s : PointStream) :
    insertInto name s streams = streams ++ [(name, s)] := by
  induction streams with
  | nil => rfl
  | cons first rest ih =>
    simp only [List.map_cons, List.mem_cons, not_or] at new
    rw [insertInto, if_neg (Ne.symm new.1), ih new.2]
    rfl

theorem streams_ofList (distinct : (streams.map Prod.fst).Nodup) :
    (ofList streams).streams = streams := by
  suffices ∀ store : Store, ((store.streams ++ streams).map Prod.fst).Nodup →
      (streams.foldl (fun store entry => store.insert entry.1 entry.2) store).streams =
        store.streams ++ streams from
    this empty distinct
  clear distinct
  induction streams with
  | nil => simp
  | cons first rest ih =>
    intro store distinct
    have inserted : (store.insert first.1 first.2).streams = store.streams ++ [first] := by
      apply insertInto_of_not_mem
      rw [List.map_append, List.map_cons] at distinct
      exact fun mem => (List.nodup_append.mp distinct).2.2 _ mem _ List.mem_cons_self rfl
    rw [List.foldl_cons, ih _ (by rw [inserted]; simpa using distinct), inserted,
      List.append_assoc, List.singleton_append]

end Store

end SeriesScript
