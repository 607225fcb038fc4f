import SeriesScript.Evaluation.Store
import SeriesScript.Function
import SeriesScript.Language.Parser

/-!
# Evaluation

Expressions read the bindings and change nothing. Statements run from top to bottom; the first error
ends the run, and what was printed before it stays printed. A second declaration of a name and an
assignment to an unbound one are refused before their expression is evaluated.

A program is run against the streams of a store, as it stands or after its scope was checked. A
script with scope errors is refused before any stream is read and any statement runs.
-/
namespace SeriesScript

def Literal.evaluate : Literal → Value
  | integer n => .number (.ofFloat (Float.ofInt n.toInt))
  | decimal x => .number (.ofFloat x)
  | text s => .text s
  | unit u => .time (.ofUnit u)
  | reduction r => .reduction r

mutual

def Expr.evaluate (prefs : Window.Preferences) (b : Bindings) : Expr → Except ScriptError Value
  | .literal l _ => .ok l.evaluate
  | .reference name span =>
    match b.get? name with
    | some v => .ok v
    | none => .error (.notDeclared name (span.getD .unknown))
  | .binary op left right _ =>
    match left.evaluate prefs b with
    | .error e => .error e
    | .ok x =>
      match right.evaluate prefs b with
      | .error e => .error e
      | .ok y => x.apply op y
  | .call function args _ =>
    match Expr.evaluateAll prefs b args with
    | .error e => .error e
    | .ok values => callFunction prefs b.earliest? function values

def Expr.evaluateAll (prefs : Window.Preferences) (b : Bindings) :
    List Expr → Except ScriptError (List Value)
  | [] => .ok []
  | e :: rest =>
    match e.evaluate prefs b with
    | .error error => .error error
    | .ok v =>
      match Expr.evaluateAll prefs b rest with
      | .error error => .error error
      | .ok vs => .ok (v :: vs)

end

/-- The bindings behind a statement, and what it prints. -/
def Statement.execute (prefs : Window.Preferences) (b : Bindings) (s : Statement) :
    Except ScriptError (Bindings × List Value) :=
  let span := s.span.getD .unknown
  match s with
  | declare name value _ =>
    if b.contains name then .error (.doubleDeclaration name span)
    else
      match value.evaluate prefs b with
      | .error e => .error e
      | .ok v =>
        match b.declare? name v with
        | some after => .ok (after, [])
        | none => .error (.doubleDeclaration name span)
  | assign name value _ =>
    if b.contains name then
      match value.evaluate prefs b with
      | .error e => .error e
      | .ok v =>
        match b.assign? name v with
        | some after => .ok (after, [])
        | none => .error (.notDeclared name span)
    else .error (.notDeclared name span)
  | print value _ =>
    match value.evaluate prefs b with
    | .error e => .error e
    | .ok v => .ok (b, [v])

/-- What a run prints, and how it ends. -/
structure Outcome where
  printed : List Value
  result : Except ScriptError Bindings

namespace Outcome

def failed (e : ScriptError) : Outcome := ⟨[], .error e⟩

def after (printed : List Value) (o : Outcome) : Outcome := ⟨printed ++ o.printed, o.result⟩

end Outcome

def Program.execute (prefs : Window.Preferences) : Bindings → List Statement → Outcome
  | b, [] => ⟨[], .ok b⟩
  | b, s :: rest =>
    match s.execute prefs b with
    | .error e => .failed e
    | .ok (next, printed) => (Program.execute prefs next rest).after printed

/-! ## Runs -/

namespace Program

/-- Runs a program without checking its scope first. -/
def evaluate (prefs : Window.Preferences) (store : Store) (program : Program) : Outcome :=
  match store.bindings with
  | .ok b => execute prefs b program
  | .error e => .failed e

/-- Runs a program unless it has scope errors. -/
def run (prefs : Window.Preferences) (store : Store) (program : Program) : Outcome :=
  match program.scopeErrors store.names with
  | [] => program.evaluate prefs store
  | errors => .failed (.invalid errors)

end Program

def runScript (prefs : Window.Preferences) (store : Store) (source : String) : Outcome :=
  match Program.parse source true with
  | .ok program => program.run prefs store
  | .error e => .failed (.notParsed e)

end SeriesScript
