import SeriesScript.Language.Program

/-!
# Scope

A name is visible once it is given in advance or an earlier statement has declared it. Every use of
a name that is not visible and every second declaration is an error; they are listed in the order
of the statements. Within a declaration the references come first, within an assignment the target.
-/
namespace SeriesScript

inductive ScopeFault where
  | doubleDeclaration
  /-- An assignment to a name that is declared nowhere. -/
  | notDeclared
  /-- A reference to a name that is declared nowhere. -/
  | unknownVariable
  /-- A use of a name before the statement that declares it. -/
  | usedBeforeDeclaration
deriving DecidableEq

structure ScopeError where
  fault : ScopeFault
  name : String
  span : Span
deriving DecidableEq

def ScopeError.message (e : ScopeError) : String :=
  match e.fault with
  | .doubleDeclaration => "Variable '" ++ e.name ++ "' was already declared! at " ++ e.span.render
  | .notDeclared => "Variable '" ++ e.name ++ "' was never declared! at " ++ e.span.render
  | .unknownVariable => "There is no variable named '" ++ e.name ++ "'! at " ++ e.span.render
  | .usedBeforeDeclaration =>
    "You cannot refer to variable '" ++ e.name ++ "' before its declaration at " ++ e.span.render

def Reference.scopeError? (declared visible : List String) (r : Reference) : Option ScopeError :=
  if visible.contains r.name then none
  else
    some ⟨if declared.contains r.name then .usedBeforeDeclaration else .unknownVariable, r.name,
      r.span.getD .unknown⟩

def Expr.scopeErrors (declared visible : List String) (e : Expr) : List ScopeError :=
  e.references.filterMap (Reference.scopeError? declared visible)

namespace Statement

/-- The errors of one statement; `declared` holds the names that the whole program declares. -/
def scopeErrors (declared visible : List String) (s : Statement) : List ScopeError :=
  let span := s.span.getD .unknown
  match s with
  | declare name value _ =>
    value.scopeErrors declared visible ++
      (if visible.contains name then [⟨.doubleDeclaration, name, span⟩] else [])
  | assign name value _ =>
    (if visible.contains name then []
     else
      [⟨if declared.contains name then .usedBeforeDeclaration else .notDeclared, name, span⟩]) ++
      value.scopeErrors declared visible
  | print value _ => value.scopeErrors declared visible

def visibleAfter (visible : List String) (s : Statement) : List String :=
  match s.declared? with
  | some name => name :: visible
  | none => visible

end Statement

namespace Program

def scopeErrorsFrom (declared : List String) : List String → List Statement → List ScopeError
  | _, [] => []
  | visible, s :: rest =>
    s.scopeErrors declared visible ++ scopeErrorsFrom declared (s.visibleAfter visible) rest

/-- All scope errors of a program, given names that are visible from the start. -/
def scopeErrors (given : List String) (program : Program) : List ScopeError :=
  scopeErrorsFrom program.declaredNames given program

end Program

end SeriesScript
