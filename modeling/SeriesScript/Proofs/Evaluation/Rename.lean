import SeriesScript.Evaluation.Evaluate
import SeriesScript.Proofs.Evaluation.ValueErrors

/-!
# Other names for variables

A renaming gives new names to the variables of a program, to the streams of a store, and to the
variables and streams that errors are about. Names of functions are no variables and stay.
-/
namespace SeriesScript

variable (f : String → String)

mutual

def Expr.rename : Expr → Expr
  | .literal l span => .literal l span
  | .reference name span => .reference (f name) span
  | .binary op left right span => .binary op left.rename right.rename span
  | .call function args span => .call function (Expr.renameIn args) span

def Expr.renameIn : List Expr → List Expr
  | [] => []
  | e :: es => e.rename :: Expr.renameIn es

end

def Reference.rename (r : Reference) : Reference := { r with name := f r.name }

def Statement.rename : Statement → Statement
  | declare name value span => .declare (f name) (value.rename f) span
  | assign name value span => .assign (f name) (value.rename f) span
  | print value span => .print (value.rename f) span

def Program.rename (program : List Statement) : List Statement := program.map (Statement.rename f)

def ScopeError.rename (e : ScopeError) : ScopeError := { e with name := f e.name }

def ScriptError.rename : ScriptError → ScriptError
  | invalid errors => .invalid (errors.map (ScopeError.rename f))
  | doubleDeclaration name span => .doubleDeclaration (f name) span
  | notDeclared name span => .notDeclared (f name) span
  | streamFailed name message => .streamFailed (f name) message
  | e => e

/-- A stream keeps all it delivers; only an error that it reports may be about variables. -/
def PointStream.rename (s : PointStream) : PointStream :=
  { s with content := s.content.mapError (ScriptError.rename f) }

def Store.rename (store : Store) : Store :=
  ⟨store.streams.map fun entry => (f entry.1, entry.2.rename f)⟩

/-! ## What stays -/

variable {f}

theorem Store.names_rename (store : Store) : (store.rename f).names = store.names.map f := by
  simp [names, rename]

mutual

theorem Expr.references_rename (e : Expr) :
    (e.rename f).references = e.references.map (Reference.rename f) := by
  match e with
  | .literal _ _ | .reference _ _ => rfl
  | .binary _ left right _ =>
    simp [Expr.rename, Expr.references, Expr.references_rename left, Expr.references_rename right]
  | .call _ args _ =>
    simp [Expr.rename, Expr.references, Expr.referencesIn_renameIn args]

theorem Expr.referencesIn_renameIn (es : List Expr) :
    Expr.referencesIn (Expr.renameIn f es) = (Expr.referencesIn es).map (Reference.rename f) := by
  match es with
  | [] => rfl
  | e :: rest =>
    simp [Expr.renameIn, Expr.referencesIn, Expr.references_rename e,
      Expr.referencesIn_renameIn rest]

end

/-- What operators and functions refuse, they refuse for no name. -/
theorem ScriptError.rename_of_concernsValues {e : ScriptError} (h : e.concernsValues = true) :
    e.rename f = e := by
  cases e <;> simp_all [rename, concernsValues]

/-! ## The renaming that changes nothing -/

mutual

@[simp] theorem Expr.rename_id (e : Expr) : e.rename id = e := by
  match e with
  | .literal _ _ | .reference _ _ => rfl
  | .binary _ left right _ => simp [Expr.rename, Expr.rename_id left, Expr.rename_id right]
  | .call _ args _ => simp [Expr.rename, Expr.renameIn_id args]

theorem Expr.renameIn_id (es : List Expr) : Expr.renameIn id es = es := by
  match es with
  | [] => rfl
  | e :: rest => simp [Expr.renameIn, Expr.rename_id e, Expr.renameIn_id rest]

end

@[simp] theorem Statement.rename_id (s : Statement) : s.rename id = s := by
  cases s <;> simp [rename]

@[simp] theorem Program.rename_id (program : List Statement) : rename id program = program := by
  simp [rename, show Statement.rename id = id from funext Statement.rename_id]

@[simp] theorem ScriptError.rename_id (e : ScriptError) : e.rename id = e := by
  cases e <;> simp [rename, show ScopeError.rename id = id from rfl]

end SeriesScript
