import Mathlib.Data.List.Basic
import SeriesScript.Language.Program

/-!
# The parts of an expression

A part of an expression is named by a path, the numbers of the children that lead to it. Paths are
ordered like words in a dictionary, which is the order of the parts from left to right.
-/
namespace SeriesScript

def Expr.children : Expr → List Expr
  | .literal _ _ => []
  | .reference _ _ => []
  | .binary _ left right _ => [left, right]
  | .call _ args _ => args

mutual

/-- What passes from the children of every expression to the expression holds of all. -/
theorem Expr.childInduction {motive : Expr → Prop}
    (step : ∀ e : Expr, (∀ c ∈ e.children, motive c) → motive e) (e : Expr) : motive e := by
  match e with
  | .literal _ _ | .reference _ _ => exact step _ (List.forall_mem_nil _)
  | .binary _ left right _ =>
    refine step _ (List.forall_mem_cons.mpr ⟨left.childInduction step, ?_⟩)
    exact List.forall_mem_singleton.mpr (right.childInduction step)
  | .call _ args _ => exact step _ (Expr.childInductionIn step args)

theorem Expr.childInductionIn {motive : Expr → Prop}
    (step : ∀ e : Expr, (∀ c ∈ e.children, motive c) → motive e) (es : List Expr) :
    ∀ e ∈ es, motive e := by
  match es with
  | [] => exact List.forall_mem_nil _
  | e :: rest =>
    exact List.forall_mem_cons.mpr ⟨e.childInduction step, Expr.childInductionIn step rest⟩

end

namespace Expr

def at? : Expr → List Nat → Option Expr
  | e, [] => some e
  | e, i :: path => e.children[i]?.bind fun c => c.at? path

/-- The part at a path that starts with the number of one of the given expressions. -/
def atIn? (es : List Expr) : List Nat → Option Expr
  | [] => none
  | i :: path => es[i]?.bind fun e => e.at? path

theorem at?_cons (e : Expr) (i : Nat) (path : List Nat) :
    e.at? (i :: path) = atIn? e.children (i :: path) := rfl

end Expr

/-! ## Where the references are -/

mutual

def Expr.referencePaths : Expr → List (List Nat)
  | .literal _ _ => []
  | .reference _ _ => [[]]
  | .binary _ left right _ =>
    left.referencePaths.map (0 :: ·) ++ right.referencePaths.map (1 :: ·)
  | .call _ args _ => Expr.referencePathsIn 0 args

/-- The paths of the references in the expressions of a list, numbered from `k` on. -/
def Expr.referencePathsIn : Nat → List Expr → List (List Nat)
  | _, [] => []
  | k, e :: es => e.referencePaths.map (k :: ·) ++ Expr.referencePathsIn (k + 1) es

end

namespace Expr

/-- The references of an expression, given from left to right: those and no others are its parts
that are references, in the order of their paths. -/
def ReadsInOrder (e : Expr) (references : List Reference) : Prop :=
  ∃ paths : List (List Nat), paths.Pairwise (· < ·) ∧
    paths.map e.at? = references.map (fun r => some (.reference r.name r.span)) ∧
    ∀ path name span, e.at? path = some (.reference name span) → path ∈ paths

theorem mem_referencePathsIn {k : Nat} {es : List Expr} {path : List Nat} :
    path ∈ referencePathsIn k es ↔
      ∃ i e rest, es[i]? = some e ∧ rest ∈ e.referencePaths ∧ path = (k + i) :: rest := by
  induction es generalizing k with
  | nil => simp [referencePathsIn]
  | cons e es ih =>
    rw [referencePathsIn, List.mem_append, ih, List.mem_map]
    constructor
    · rintro (⟨rest, mem, rfl⟩ | ⟨i, f, rest, at_i, mem, rfl⟩)
      · exact ⟨0, e, rest, rfl, mem, rfl⟩
      · exact ⟨i + 1, f, rest, at_i, mem, by rw [Nat.add_right_comm, Nat.add_assoc]⟩
    · rintro ⟨_ | i, f, rest, at_i, mem, rfl⟩
      · cases at_i
        exact .inl ⟨rest, mem, rfl⟩
      · exact .inr ⟨i, f, rest, at_i, mem, by rw [Nat.add_right_comm, Nat.add_assoc]⟩

theorem referencePathsIn_pairwise (k : Nat) {es : List Expr}
    (each : ∀ e ∈ es, e.referencePaths.Pairwise (· < ·)) :
    (referencePathsIn k es).Pairwise (· < ·) := by
  induction es generalizing k with
  | nil => exact .nil
  | cons e es ih =>
    obtain ⟨first, others⟩ := List.forall_mem_cons.mp each
    rw [referencePathsIn, List.pairwise_append]
    refine ⟨?_, ih (k + 1) others, ?_⟩
    · exact List.pairwise_map.mpr (first.imp fun lt => List.cons_lt_cons_iff.mpr (.inr ⟨rfl, lt⟩))
    · intro a ha b hb
      obtain ⟨p, -, rfl⟩ := List.mem_map.mp ha
      obtain ⟨i, _, q, -, -, rfl⟩ := mem_referencePathsIn.mp hb
      exact List.cons_lt_cons_iff.mpr (.inl (by omega))

theorem map_atIn?_referencePathsIn (all : List Expr) (k : Nat) {es : List Expr}
    (behind : all.drop k = es)
    (each : ∀ e ∈ es, e.referencePaths.map e.at? =
      e.references.map fun r => some (.reference r.name r.span)) :
    (referencePathsIn k es).map (atIn? all) =
      (referencesIn es).map fun r => some (.reference r.name r.span) := by
  induction es generalizing k with
  | nil => rfl
  | cons e es ih =>
    obtain ⟨first, others⟩ := List.forall_mem_cons.mp each
    have at_k : all[k]? = some e := by rw [← List.head?_drop, behind, List.head?_cons]
    have next : all.drop (k + 1) = es := by rw [← List.tail_drop, behind, List.tail_cons]
    have here : e.referencePaths.map (atIn? all ∘ (k :: ·)) = e.referencePaths.map e.at? :=
      List.map_congr_left fun path _ => by simp [atIn?, at_k]
    rw [referencePathsIn, List.map_append, List.map_map, here, first, ih (k + 1) next others,
      referencesIn, List.map_append]

/-- An expression is a reference, or its references are those of its children. -/
theorem reference_or_children (e : Expr) :
    (∃ name span, e = .reference name span) ∨
      (e.referencePaths = referencePathsIn 0 e.children ∧
        e.references = referencesIn e.children) := by
  cases e with
  | literal => exact .inr ⟨rfl, rfl⟩
  | reference name span => exact .inl ⟨name, span, rfl⟩
  | binary op left right span =>
    refine .inr ⟨?_, ?_⟩
    · rw [referencePaths, children, referencePathsIn, referencePathsIn, referencePathsIn,
        List.append_nil]
    · rw [references, children, referencesIn, referencesIn, referencesIn, List.append_nil]
  | call => exact .inr ⟨rfl, rfl⟩

theorem referencePaths_pairwise (e : Expr) : e.referencePaths.Pairwise (· < ·) := by
  induction e using childInduction with
  | step e each =>
    rcases e.reference_or_children with ⟨name, span, rfl⟩ | ⟨paths, -⟩
    · exact List.pairwise_singleton _ _
    · exact paths ▸ referencePathsIn_pairwise 0 each

theorem map_at?_referencePaths (e : Expr) :
    e.referencePaths.map e.at? = e.references.map fun r => some (.reference r.name r.span) := by
  induction e using childInduction with
  | step e each =>
    rcases e.reference_or_children with ⟨name, span, rfl⟩ | ⟨paths, refs⟩
    · rfl
    · have below : (referencePathsIn 0 e.children).map e.at? =
          (referencePathsIn 0 e.children).map (atIn? e.children) := by
        refine List.map_congr_left fun path mem => ?_
        obtain ⟨i, _, rest, -, -, rfl⟩ := mem_referencePathsIn.mp mem
        exact at?_cons e _ rest
      rw [paths, refs, below, map_atIn?_referencePathsIn e.children 0 List.drop_zero each]

theorem mem_referencePaths {e : Expr} {path : List Nat} {name : String} {span : Option Span}
    (found : e.at? path = some (.reference name span)) : path ∈ e.referencePaths := by
  induction path generalizing e with
  | nil =>
    cases found
    exact List.mem_singleton_self _
  | cons i path ih =>
    obtain ⟨c, at_i, found⟩ := Option.bind_eq_some_iff.mp found
    have mem : i :: path ∈ referencePathsIn 0 e.children :=
      mem_referencePathsIn.mpr ⟨i, c, path, at_i, ih found, by rw [Nat.zero_add]⟩
    rcases e.reference_or_children with ⟨_, _, rfl⟩ | ⟨paths, -⟩
    · cases at_i
    · exact paths ▸ mem

/-- References are collected from left to right, each once and none left out. -/
theorem references_readInOrder (e : Expr) : e.ReadsInOrder e.references :=
  ⟨e.referencePaths, e.referencePaths_pairwise, e.map_at?_referencePaths,
    fun _ _ _ => mem_referencePaths⟩

end Expr

end SeriesScript
