import Std.Data.TreeMap
import SeriesScript.Value

/-!
# Bindings

The variables of a run, in the order in which they were bound. An index leads from each name to its
place in that order; index and order agree by the type. A name is bound once; binding it again and
assigning to an unbound name are both refused.
-/
namespace SeriesScript

structure Bindings where
  entries : Array (String × Value)
  index : Std.TreeMap String Nat
  consistent : ∀ (name : String) (i : Nat),
    index[name]? = some i ↔ ∃ value, entries[i]? = some (name, value)

namespace Bindings

def empty : Bindings := ⟨#[], ∅, by simp⟩

instance : Inhabited Bindings := ⟨empty⟩

def position? (b : Bindings) (name : String) : Option Nat := b.index[name]?

def get? (b : Bindings) (name : String) : Option Value :=
  match b.position? name with
  | some i => b.entries[i]?.map Prod.snd
  | none => none

def contains (b : Bindings) (name : String) : Bool := (b.position? name).isSome

def toList (b : Bindings) : List (String × Value) := b.entries.toList

def names (b : Bindings) : List String := b.toList.map Prod.fst

def size (b : Bindings) : Nat := b.entries.size

def isEmpty (b : Bindings) : Bool := b.size == 0

theorem position?_eq_none {b : Bindings} {name : String} (h : b.index[name]? = none) (i : Nat)
    (value : Value) : b.entries[i]? ≠ some (name, value) := by
  intro hi
  have := (b.consistent name i).mpr ⟨value, hi⟩
  simp [h] at this

def push (b : Bindings) (name : String) (value : Value) (h : b.index[name]? = none) : Bindings where
  entries := b.entries.push (name, value)
  index := b.index.insert name b.entries.size
  consistent := by
    intro other i
    rw [Std.TreeMap.getElem?_insert, Array.getElem?_push]
    by_cases hn : name = other
    · subst hn
      simp only [Std.ReflCmp.compare_self, ↓reduceIte, Option.some.injEq]
      constructor
      · rintro rfl
        simp
      · rintro ⟨v, hv⟩
        split at hv
        · rename_i he
          exact he.symm
        · exact absurd hv (position?_eq_none h i v)
    · have hc : ¬ compare name other = .eq := by
        simpa using hn
      simp only [hc, ↓reduceIte]
      rw [b.consistent other i]
      constructor
      · rintro ⟨v, hv⟩
        refine ⟨v, ?_⟩
        split
        · rename_i he
          subst he
          simp at hv
        · exact hv
      · rintro ⟨v, hv⟩
        refine ⟨v, ?_⟩
        split at hv
        · simp only [Option.some.injEq, Prod.mk.injEq] at hv
          exact absurd hv.1 hn
        · exact hv

/-- Binds a new name; refused if the name is bound. -/
def declare? (b : Bindings) (name : String) (value : Value) : Option Bindings :=
  match h : b.index[name]? with
  | some _ => none
  | none => some (b.push name value h)

def replace (b : Bindings) (i : Nat) (name : String) (value : Value)
    (h : b.index[name]? = some i) : Bindings where
  entries := b.entries.setIfInBounds i (name, value)
  index := b.index
  consistent := by
    intro other j
    rw [b.consistent other j, Array.getElem?_setIfInBounds]
    obtain ⟨v, hv⟩ := (b.consistent name i).mp h
    by_cases hij : i = j
    · subst hij
      have hlt : i < b.entries.size := by
        rw [Array.getElem?_eq_some_iff] at hv
        exact hv.1
      simp only [hv, ↓reduceIte, hlt, Option.some.injEq, Prod.mk.injEq]
      constructor
      · rintro ⟨w, rfl, -⟩
        exact ⟨value, rfl, rfl⟩
      · rintro ⟨w, rfl, -⟩
        exact ⟨v, rfl, rfl⟩
    · simp only [hij, ↓reduceIte]

/-- Gives a bound name a new value; refused if the name is not bound. -/
def assign? (b : Bindings) (name : String) (value : Value) : Option Bindings :=
  match h : b.index[name]? with
  | some i => some (b.replace i name value h)
  | none => none

/-- The earliest of the first points of all series that are bound; of several at one instant, that
of the series bound first. -/
def earliest? (b : Bindings) : Option Timestamp :=
  match b.toList.filterMap (fun entry => entry.2.series?.bind Series.earliest?) with
  | [] => none
  | first :: rest => some (rest.foldl Timestamp.earlier first)

end Bindings

end SeriesScript
