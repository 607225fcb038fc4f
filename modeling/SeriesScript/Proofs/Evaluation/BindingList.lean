import SeriesScript.Evaluation.Bindings

/-!
# Bindings as a list of entries

What the operations on bindings do to the list of their entries: a declaration adds an entry at its
end, and an assignment changes the value of one entry.
-/
namespace SeriesScript.Bindings

variable {b next : Bindings} {name other : String} {value v : Value} {i : Nat}

theorem position?_eq_some_iff :
    b.position? name = some i ↔ ∃ value, b.toList[i]? = some (name, value) := by
  rw [position?, b.consistent]
  simp only [toList, Array.getElem?_toList]

theorem get?_eq_some_iff : b.get? name = some v ↔ (name, v) ∈ b.toList := by
  rw [get?]
  constructor
  · intro h
    split at h
    · rename_i i hi
      obtain ⟨w, hw⟩ := position?_eq_some_iff.mp hi
      simp only [toList, Array.getElem?_toList] at hw
      simp only [hw, Option.map_some, Option.some.injEq] at h
      subst h
      exact Array.mem_toList_iff.mpr (Array.mem_of_getElem? hw)
    · cases h
  · intro h
    obtain ⟨i, hi⟩ := List.mem_iff_getElem?.mp h
    rw [position?_eq_some_iff.mpr ⟨v, hi⟩]
    simp only [toList, Array.getElem?_toList] at hi
    simp [hi]

theorem contains_iff : b.contains name = true ↔ ∃ v, b.get? name = some v := by
  constructor
  · intro h
    obtain ⟨i, hi⟩ := Option.isSome_iff_exists.mp h
    obtain ⟨v, hv⟩ := position?_eq_some_iff.mp hi
    exact ⟨v, get?_eq_some_iff.mpr (List.mem_of_getElem? hv)⟩
  · rintro ⟨v, hv⟩
    obtain ⟨i, hi⟩ := List.mem_iff_getElem?.mp (get?_eq_some_iff.mp hv)
    rw [contains, position?_eq_some_iff.mpr ⟨v, hi⟩]
    rfl

theorem get?_isSome : (b.get? name).isSome = b.contains name := by
  rw [Bool.eq_iff_iff, contains_iff, Option.isSome_iff_exists]

theorem contains_iff_mem_names : b.contains name = true ↔ name ∈ b.names := by
  simp [contains_iff, get?_eq_some_iff, names]

theorem declare?_of_not_contains (h : b.contains name = false) (value : Value) :
    ∃ next, b.declare? name value = some next ∧ next.toList = b.toList ++ [(name, value)] := by
  have hn : b.index[name]? = none := by
    simpa only [contains, position?, Option.isSome_eq_false_iff, Option.isNone_iff_eq_none] using h
  refine ⟨b.push name value hn, ?_, by simp [push, toList]⟩
  rw [declare?]
  split
  · rename_i i hi
    rw [hn] at hi
    cases hi
  · rfl

theorem declare?_of_contains (h : b.contains name = true) (value : Value) :
    b.declare? name value = none := by
  rw [declare?]
  split
  · rfl
  · rename_i hn
    simp [contains, position?, hn] at h

theorem toList_of_declare? (h : b.declare? name value = some next) :
    next.toList = b.toList ++ [(name, value)] := by
  cases hc : b.contains name with
  | true =>
    rw [declare?_of_contains hc] at h
    cases h
  | false =>
    obtain ⟨after, ha, hl⟩ := declare?_of_not_contains hc value
    rw [ha] at h
    cases h
    exact hl

theorem contains_of_declare? (h : b.declare? name value = some next) :
    next.contains other = true ↔ other = name ∨ b.contains other = true := by
  simp [contains_iff_mem_names, names, toList_of_declare? h, or_comm]

theorem get?_self_of_declare? (h : b.declare? name value = some next) :
    next.get? name = some value := by
  rw [get?_eq_some_iff, toList_of_declare? h]
  exact List.mem_append_right _ (List.mem_singleton_self _)

theorem get?_of_declare? (h : b.declare? name value = some next) (ne : other ≠ name) :
    next.get? other = b.get? other := by
  apply Option.ext
  intro v
  rw [get?_eq_some_iff, get?_eq_some_iff, toList_of_declare? h]
  simp [ne]

theorem assign?_of_contains (h : b.contains name = true) (value : Value) :
    ∃ next i, b.assign? name value = some next ∧ b.position? name = some i ∧
      next.toList = b.toList.set i (name, value) := by
  obtain ⟨i, hi⟩ := Option.isSome_iff_exists.mp h
  refine ⟨b.replace i name value hi, i, ?_, hi, by simp [replace, toList]⟩
  rw [assign?]
  split
  · rename_i j hj
    rw [position?, hj] at hi
    cases hi
    rfl
  · rename_i hn
    rw [position?, hn] at hi
    cases hi

theorem assign?_of_not_contains (h : b.contains name = false) (value : Value) :
    b.assign? name value = none := by
  rw [assign?]
  split
  · rename_i i hi
    simp [contains, position?, hi] at h
  · rfl

theorem toList_of_assign? (h : b.assign? name value = some next) :
    ∃ i, b.position? name = some i ∧ next.toList = b.toList.set i (name, value) := by
  cases hc : b.contains name with
  | true =>
    obtain ⟨after, i, ha, hi, hl⟩ := assign?_of_contains hc value
    rw [ha] at h
    cases h
    exact ⟨i, hi, hl⟩
  | false =>
    rw [assign?_of_not_contains hc] at h
    cases h

/-- An assignment replaces the entry of its name, for no other entry has that name. -/
theorem toList_of_assign?_eq_map (h : b.assign? name value = some next) :
    next.toList = b.toList.map fun entry => if entry.1 = name then (name, value) else entry := by
  obtain ⟨i, hi, hl⟩ := toList_of_assign? h
  obtain ⟨w, hw⟩ := position?_eq_some_iff.mp hi
  rw [hl]
  apply List.ext_getElem?
  intro j
  rw [List.getElem?_set, List.getElem?_map]
  by_cases hij : i = j
  · subst hij
    obtain ⟨bound, -⟩ := List.getElem?_eq_some_iff.mp hw
    rw [if_pos rfl, if_pos bound, hw]
    simp
  · rw [if_neg hij]
    cases hj : b.toList[j]? with
    | none => rfl
    | some entry =>
      have ne : entry.1 ≠ name := by
        rintro rfl
        have := position?_eq_some_iff.mpr ⟨entry.2, hj⟩
        rw [hi] at this
        exact hij (Option.some.inj this)
      simp [ne]

theorem get?_of_assign? (h : b.assign? name value = some next) (ne : other ≠ name) :
    next.get? other = b.get? other := by
  apply Option.ext
  intro v
  rw [get?_eq_some_iff, get?_eq_some_iff, toList_of_assign?_eq_map h, List.mem_map]
  constructor
  · rintro ⟨entry, mem, he⟩
    split at he
    · cases he
      exact absurd rfl ne
    · exact he ▸ mem
  · intro mem
    exact ⟨_, mem, if_neg ne⟩

theorem names_of_assign? (h : b.assign? name value = some next) : next.names = b.names := by
  obtain ⟨i, hi, hl⟩ := toList_of_assign? h
  obtain ⟨v, hv⟩ := position?_eq_some_iff.mp hi
  obtain ⟨hi, he⟩ := List.getElem?_eq_some_iff.mp hv
  have bound : i < (b.toList.map Prod.fst).length := by rwa [List.length_map]
  have hs : (b.toList.map Prod.fst)[i] = name := by simp [he]
  rw [names, names, hl, List.map_set, ← hs, List.set_getElem_self]

theorem contains_of_assign? (h : b.assign? name value = some next) :
    next.contains other = b.contains other := by
  rw [Bool.eq_iff_iff, contains_iff_mem_names, contains_iff_mem_names, names_of_assign? h]

end SeriesScript.Bindings
