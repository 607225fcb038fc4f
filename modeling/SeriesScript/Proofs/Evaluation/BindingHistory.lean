import SeriesScript.Proofs.Evaluation.BindingList

/-!
# Bindings through a history of updates

Declarations and assignments act on bindings as on a plain list of entries that is searched from its
start. What a call answers and what the bindings then show is the same on both sides, after any
history, and the index leads to every name and to nothing else.
-/
namespace SeriesScript.Bindings

variable {b : Bindings} {entries : List (String × Value)} {name : String} {value : Value} {i : Nat}

inductive Update where
  | declare (name : String) (value : Value)
  | assign (name : String) (value : Value)

/-- The answers to some calls, one after the other, and the state behind them. -/
def history {State : Type} (call : State → Update → Bool × State) :
    State → List Update → List Bool × State
  | s, [] => ([], s)
  | s, u :: rest =>
    let (accepted, next) := call s u
    let (answers, last) := history call next rest
    (accepted :: answers, last)

/-- The bindings after a call that may have been refused. -/
def answer (b : Bindings) : Option Bindings → Bool × Bindings
  | some next => (true, next)
  | none => (false, b)

def update (b : Bindings) : Update → Bool × Bindings
  | .declare name value => b.answer (b.declare? name value)
  | .assign name value => b.answer (b.assign? name value)

/-- The entries with a new value in the first entry of a name. -/
def overwrite (name : String) (value : Value) : List (String × Value) → List (String × Value)
  | [] => []
  | (other, old) :: rest =>
    if other = name then (other, value) :: rest else (other, old) :: overwrite name value rest

def updateList (entries : List (String × Value)) : Update → Bool × List (String × Value)
  | .declare name value =>
    if name ∈ entries.map Prod.fst then (false, entries) else (true, entries ++ [(name, value)])
  | .assign name value =>
    if name ∈ entries.map Prod.fst then (true, overwrite name value entries) else (false, entries)

/-! ## What the bindings show -/

theorem position?_eq_some_iff_names : b.position? name = some i ↔ b.names[i]? = some name := by
  rw [position?_eq_some_iff, names, List.getElem?_map, Option.map_eq_some_iff]
  constructor
  · rintro ⟨value, h⟩
    exact ⟨(name, value), h, rfl⟩
  · rintro ⟨⟨_, value⟩, h, rfl⟩
    exact ⟨value, h⟩

theorem names_nodup (b : Bindings) : b.names.Nodup := by
  rw [List.Nodup, List.pairwise_iff_getElem]
  intro i j hi hj before same
  have first := position?_eq_some_iff_names.mpr (List.getElem?_eq_getElem hi)
  have second := position?_eq_some_iff_names.mpr (List.getElem?_eq_getElem hj)
  rw [same, second] at first
  exact Nat.ne_of_lt before (Option.some.inj first).symm

theorem get?_eq_lookup (b : Bindings) (name : String) : b.get? name = b.toList.lookup name := by
  apply Option.ext
  intro v
  rw [get?_eq_some_iff, List.lookup_eq_some_iff]
  constructor
  · intro mem
    obtain ⟨before, behind, split⟩ := List.append_of_mem mem
    refine ⟨before, behind, split, fun entry here => bne_iff_ne.mpr fun same => ?_⟩
    have distinct := b.names_nodup
    rw [names, split, List.map_append, List.nodup_append] at distinct
    exact distinct.2.2 _ (List.mem_map_of_mem here) name (by simp) same.symm
  · rintro ⟨before, behind, split, -⟩
    rw [split]
    exact List.mem_append_right _ List.mem_cons_self

structure Matches (b : Bindings) (entries : List (String × Value)) : Prop where
  distinct : (entries.map Prod.fst).Nodup
  index : ∀ (name : String) (i : Nat), b.index[name]? = some i ↔ (entries.map Prod.fst)[i]? = some name
  get? : ∀ name, b.get? name = entries.lookup name
  contains : ∀ name, b.contains name = (entries.map Prod.fst).contains name
  names : b.names = entries.map Prod.fst
  toList : b.toList = entries
  size : b.size = entries.length
  isEmpty : b.isEmpty = entries.isEmpty

theorem matches_toList (b : Bindings) : Matches b b.toList where
  distinct := b.names_nodup
  index _ _ := position?_eq_some_iff_names
  get? := b.get?_eq_lookup
  contains name := by
    rw [Bool.eq_iff_iff, contains_iff_mem_names, List.contains_iff_mem]
    rfl
  names := rfl
  toList := rfl
  size := rfl
  isEmpty := by
    rw [Bool.eq_iff_iff, List.isEmpty_iff_length_eq_zero]
    exact beq_iff_eq

/-! ## One call and many -/

/-- If the names are distinct, the first entry of a name is the only one. -/
theorem overwrite_eq_map (distinct : (entries.map Prod.fst).Nodup) (name : String) (value : Value) :
    overwrite name value entries =
      entries.map fun entry => if entry.1 = name then (name, value) else entry := by
  induction entries with
  | nil => rfl
  | cons entry rest ih =>
    obtain ⟨other, old⟩ := entry
    rw [List.map_cons, List.nodup_cons] at distinct
    rw [overwrite, List.map_cons, ih distinct.2]
    by_cases same : other = name
    · subst same
      have apart : ∀ entry ∈ rest, (if entry.1 = other then (other, value) else entry) = entry :=
        fun entry mem => if_neg fun again => distinct.1 (List.mem_map.mpr ⟨entry, mem, again⟩)
      rw [if_pos rfl, if_pos rfl, List.map_congr_left apart, List.map_id']
    · rw [if_neg same, if_neg same]

theorem updateList_toList (b : Bindings) (u : Update) :
    updateList b.toList u = ((b.update u).1, (b.update u).2.toList) := by
  have bound (name : String) : name ∈ b.toList.map Prod.fst ↔ b.contains name = true :=
    contains_iff_mem_names.symm
  cases u with
  | declare name value =>
    rw [updateList, update]
    cases h : b.contains name with
    | true =>
      rw [if_pos ((bound name).mpr h), declare?_of_contains h]
      rfl
    | false =>
      obtain ⟨next, accepted, entries⟩ := declare?_of_not_contains h value
      rw [if_neg (by simp [bound, h]), accepted, ← entries]
      rfl
  | assign name value =>
    rw [updateList, update]
    cases h : b.contains name with
    | true =>
      obtain ⟨next, i, accepted, -⟩ := assign?_of_contains h value
      rw [if_pos ((bound name).mpr h), accepted, overwrite_eq_map b.names_nodup,
        ← toList_of_assign?_eq_map accepted]
      rfl
    | false =>
      rw [if_neg (by simp [bound, h]), assign?_of_not_contains h]
      rfl

theorem history_updateList (b : Bindings) (updates : List Update) :
    history updateList b.toList updates =
      ((history update b updates).1, (history update b updates).2.toList) := by
  induction updates generalizing b with
  | nil => rfl
  | cons u rest ih => simp only [history, updateList_toList, ih]

/-- After any calls on empty bindings these match the list behind the same calls, which were
accepted and refused alike. -/
theorem history_matches (updates : List Update) :
    ∃ answers b entries, history update empty updates = (answers, b) ∧
      history updateList [] updates = (answers, entries) ∧ Matches b entries :=
  ⟨_, _, _, rfl, history_updateList empty updates, matches_toList _⟩

end SeriesScript.Bindings
