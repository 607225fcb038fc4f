import SeriesScript.Proofs.Language.Parts
import SeriesScript.Proofs.Scope.Runs

/-!
# The violations of scope

What breaks the rules of declaration can be said of each statement by its place in the program
alone: a name is visible there if it is given in advance or one of the statements above declares it.
The scope check, which keeps a list of visible names as it goes, reports these violations and no
others, in the order of the statements.
-/
namespace SeriesScript.Program

variable {given : List String} {program : Program} {i : Nat} {name : String}

/-- A name that is given in advance, or that a statement above statement `i` declares. -/
def VisibleAt (given : List String) (program : Program) (i : Nat) (name : String) : Prop :=
  name ∈ given ∨ ∃ j < i, program[j]?.bind Statement.declared? = some name

instance : Decidable (VisibleAt given program i name) :=
  inferInstanceAs (Decidable (_ ∨ _))

/-- What is wrong with a name that is not visible: it is used too early, if some statement of the
program declares it. -/
def faultOf (program : Program) (name : String) (otherwise : ScopeFault) : ScopeFault :=
  if ∃ s ∈ program, s.declared? = some name then .usedBeforeDeclaration else otherwise

/-- The references that are not visible at statement `i`, each at its own place. -/
def unseen (given : List String) (program : Program) (i : Nat) (references : List Reference) :
    List ScopeError :=
  (references.filter fun r => ¬ VisibleAt given program i r.name).map fun r =>
    ⟨program.faultOf r.name .unknownVariable, r.name, r.span.getD .unknown⟩

def violations (given : List String) (program : Program) (i : Nat) : Statement → List ScopeError
  | .declare name value span =>
    unseen given program i value.references ++
      if VisibleAt given program i name then
        [⟨.doubleDeclaration, name, span.getD .unknown⟩]
      else []
  | .assign name value span =>
    (if VisibleAt given program i name then []
      else [⟨program.faultOf name .notDeclared, name, span.getD .unknown⟩]) ++
      unseen given program i value.references
  | .print value _ => unseen given program i value.references

/-! ## The check keeps the visible names -/

theorem mem_visibleBefore :
    name ∈ visibleBefore given program i ↔ VisibleAt given program i name := by
  induction i with
  | zero => simp [visibleBefore, VisibleAt]
  | succ i ih =>
    have above : VisibleAt given program (i + 1) name ↔
        VisibleAt given program i name ∨ program[i]?.bind Statement.declared? = some name := by
      simp only [VisibleAt, Nat.lt_succ_iff_lt_or_eq]
      grind
    rw [above, ← ih]
    cases at_i : program[i]? with
    | none =>
      rw [visibleBefore, List.take_of_length_le (by grind), visibleBefore,
        List.take_of_length_le (by grind)]
      simp
    | some s =>
      rw [visibleBefore_succ at_i, Statement.visibleAfter]
      cases declared : s.declared? with
      | none => simp [declared]
      | some other => simp [declared, or_comm, eq_comm]

theorem mem_declaredNames : name ∈ program.declaredNames ↔ ∃ s ∈ program, s.declared? = some name :=
  List.mem_filterMap

theorem ite_declaredNames (name : String) (otherwise : ScopeFault) :
    (if name ∈ program.declaredNames then .usedBeforeDeclaration else otherwise) =
      program.faultOf name otherwise := by
  simp only [faultOf, mem_declaredNames]

theorem scopeErrors_eq_unseen (given : List String) (program : Program) (i : Nat) (e : Expr) :
    e.scopeErrors program.declaredNames (visibleBefore given program i) =
      unseen given program i e.references := by
  rw [Expr.scopeErrors, unseen]
  induction e.references with
  | nil => rfl
  | cons r refs ih =>
    by_cases visible : VisibleAt given program i r.name
    · have found : r.name ∈ visibleBefore given program i := mem_visibleBefore.mpr visible
      rw [List.filterMap_cons, List.filter_cons_of_neg (by simpa using visible), ← ih]
      simp [Reference.scopeError?, found]
    · have missing : r.name ∉ visibleBefore given program i := mt mem_visibleBefore.mp visible
      rw [List.filterMap_cons, List.filter_cons_of_pos (by simpa using visible), List.map_cons,
        ← ih]
      simp [Reference.scopeError?, missing, ite_declaredNames]

theorem scopeErrors_eq_violationsOf (given : List String) (program : Program) (i : Nat)
    (s : Statement) :
    s.scopeErrors program.declaredNames (visibleBefore given program i) =
      violations given program i s := by
  cases s with
  | declare name value span =>
    simp only [Statement.scopeErrors, violations, scopeErrors_eq_unseen, List.contains_iff_mem,
      mem_visibleBefore]
    rfl
  | assign name value span =>
    simp only [Statement.scopeErrors, violations, scopeErrors_eq_unseen, List.contains_iff_mem,
      mem_visibleBefore, ite_declaredNames]
    rfl
  | print value span => exact scopeErrors_eq_unseen given program i value

/-- The scope check reports the violations of the statements, in their order. The references that
it looks at are those of the expressions, from left to right. -/
theorem scopeErrors_eq_violations (given : List String) (program : Program) :
    program.scopeErrors given = (program.mapIdx (violations given program)).flatten ∧
      ∀ s ∈ program, s.value.ReadsInOrder s.value.references := by
  refine ⟨?_, fun s _ => s.value.references_readInOrder⟩
  rw [scopeErrors_eq_flatMap, List.flatMap_def]
  congr 1
  refine List.ext_getElem (by simp) fun i _ inside => ?_
  have at_i : i < program.length := by simpa using inside
  simp [scopeErrorsOf, List.getElem?_eq_getElem at_i, scopeErrors_eq_violationsOf]

end SeriesScript.Program
