import SeriesScript.Decimal.Dyadic
import SeriesScript.Unicode.Classes

/-!
# Environment variables

Variables come from the environment of a run, and from files with lines of the form `NAME=value`. A
file only adds variables that the environment does not have. The lines before the first broken one
take effect.
-/
namespace SeriesScript

/-- The variables of a run, each with its value. -/
abbrev Environment := List (String × String)

def Environment.get? (env : Environment) (name : String) : Option String := env.lookup name

/-- Adds a variable unless there is one of its name. -/
def Environment.provide (env : Environment) (name value : String) : Environment :=
  match env.get? name with
  | some _ => env
  | none => env ++ [(name, value)]

namespace EnvironmentFile

/-! ## Logical lines

A value in quotes may run over several lines. -/

/-- Where in a logical line a character stands. -/
inductive Place where
  | plain
  /-- Behind a blank. -/
  | spaced
  | escaped
  | single
  | singleEscaped
  | double
  | doubleEscaped
deriving DecidableEq

def Place.afterBare (c : Char) : Place :=
  if c = '\\' then .escaped else if c = '"' then .double else if c = '\'' then .single else .plain

def Place.next : Place → Char → Place
  | .plain, c =>
    if Unicode.isBlank c ∧ c ≠ '\n' ∧ c ≠ '\r' then .spaced else afterBare c
  | .spaced, c => afterBare c
  | .escaped, _ => .plain
  | .single, c => if c = '\\' then .singleEscaped else if c = '\'' then .plain else .single
  | .singleEscaped, _ => .single
  | .double, c => if c = '\\' then .doubleEscaped else if c = '"' then .plain else .double
  | .doubleEscaped, _ => .double

/-- The place behind a line, and the line up to a comment that begins behind a blank; `none` for the
place if there is such a comment. -/
def scanLine : Place → List Char → Option Place × List Char
  | place, [] => (some place, [])
  | place, c :: cs =>
    if place = .spaced ∧ c = '#' then (none, [])
    else
      let (last, kept) := scanLine (place.next c) cs
      (last, c :: kept)

/-- A text cut behind every line feed. -/
def physicalLines : List Char → List (List Char)
  | [] => []
  | c :: cs =>
    if c = '\n' then [c] :: physicalLines cs
    else
      match physicalLines cs with
      | [] => [[c]]
      | line :: rest => (c :: line) :: rest

def isComment (line : List Char) : Bool := (line.dropWhile Unicode.isBlank).head? == some '#'

/-- The logical lines of physical ones, behind an open line that ends in a place. An open line that
the text ends in is broken. -/
def logicalLines : Place → List Char → List (List Char) → List (Option (List Char))
  | place, _, [] => if place = .plain then [] else [none]
  | place, opened, line :: rest =>
    let whole := opened ++ line
    if isComment whole then logicalLines .plain [] rest
    else
      match scanLine place line with
      | (none, kept) => some (opened ++ kept) :: logicalLines .plain [] rest
      | (some .plain, _) => some whole :: logicalLines .plain [] rest
      | (some open_, _) => logicalLines open_ whole rest

/-! ## Assignments -/

def isNameStart (c : Char) : Bool := ('a' ≤ c && c ≤ 'z') || ('A' ≤ c && c ≤ 'Z') || c == '_'

def isNameChar (c : Char) : Bool := isNameStart c || Decimal.isDigit c || c == '.'

def skipBlanks (cs : List Char) : List Char := cs.dropWhile Unicode.isBlank

def readName (cs : List Char) : Option (String × List Char) :=
  match cs with
  | c :: _ =>
    if isNameStart c then
      let name := cs.takeWhile isNameChar
      some (String.ofList name, skipBlanks (cs.drop name.length))
    else none
  | [] => none

def readEquals : List Char → Option (List Char)
  | '=' :: cs => some (skipBlanks cs)
  | _ => none

/-- The name and what follows the equals sign; the word `export` may stand before the name. -/
def readTarget (cs : List Char) : Option (String × List Char) := do
  let (name, rest) ← readName cs
  match readEquals rest with
  | some value => some (name, value)
  | none =>
    if name = "export" then do
      let (name, rest) ← readName rest
      return (name, ← readEquals rest)
    else none

/-- Where in a value a character stands. -/
inductive Mode where
  | bare
  | single
  | double
  /-- Behind a backslash, in double quotes or outside of them. -/
  | escape (quoted : Bool)
  /-- In the name of a variable behind a dollar sign, in reverse. -/
  | variable (quoted : Bool) (name : List Char)
  /-- In the name of a variable in curly brackets, in reverse. -/
  | bracketed (quoted : Bool) (name : List Char)
  /-- Behind the blank that ends a value. -/
  | ended

def Mode.outside (quoted : Bool) : Mode := if quoted then .double else .bare

def isWordChar (c : Char) : Bool := Unicode.isAlphabetic c || Unicode.isNumeric c

def substitute (env : Environment) (name : List Char) : List Char :=
  ((env.get? (String.ofList name.reverse)).getD "").toList

def isValueEnd (c : Char) : Bool := c == ' ' || c == '\t'

/-- The mode behind a character, and what the character adds to the value. -/
def Mode.step (env : Environment) (c : Char) : Mode → Option (Mode × List Char)
  | .ended => if isValueEnd c then some (.ended, []) else none
  | .escape quoted =>
    if c = 'n' then some (outside quoted, ['\n'])
    else if c ∈ ['\\', '\'', '"', '$', ' '] then some (outside quoted, [c])
    else none
  | .single => if c = '\'' then some (.bare, []) else some (.single, [c])
  | .variable quoted name =>
    if isWordChar c then some (.variable quoted (c :: name), [])
    else if c = '\x7b' ∧ name = [] then some (.bracketed quoted [], [])
    else if c = '$' then some (.variable quoted [], substitute env name)
    else some (outside quoted, substitute env name ++ [c])
  | .bracketed quoted name =>
    if c = '\x7d' then some (outside quoted, substitute env name)
    else some (.bracketed quoted (c :: name), [])
  | .double =>
    if c = '$' then some (.variable true [], [])
    else if c = '"' then some (.bare, [])
    else if c = '\\' then some (.escape true, [])
    else some (.double, [c])
  | .bare =>
    if c = '$' then some (.variable false [], [])
    else if c = '\'' then some (.single, [])
    else if c = '"' then some (.double, [])
    else if c = '\\' then some (.escape false, [])
    else if isValueEnd c then some (.ended, [])
    else some (.bare, [c])

/-- What a value ends with in a mode; quotes and brackets must be closed. -/
def Mode.finish (env : Environment) : Mode → Option (List Char)
  | .single | .double | .escape true | .variable true _ | .bracketed _ _ => none
  | .variable false name => some (substitute env name)
  | _ => some []

def readValue (env : Environment) : Mode → List Char → Option (List Char)
  | mode, [] => mode.finish env
  | .ended, '#' :: _ => some []
  | mode, c :: cs =>
    match mode.step env c with
    | some (next, added) => (readValue env next cs).map (added ++ ·)
    | none => none

inductive Line where
  | empty
  | broken
  | assignment (name value : String)

def trimEnd (cs : List Char) : List Char := (cs.reverse.dropWhile Unicode.isBlank).reverse

def readLine (env : Environment) (line : List Char) : Line :=
  match skipBlanks (trimEnd line) with
  | [] => .empty
  | '#' :: _ => .empty
  | cs =>
    match readTarget cs with
    | none => .broken
    | some (name, []) => .assignment name ""
    | some (name, '#' :: _) => .assignment name ""
    | some (name, value) =>
      match readValue env .bare value with
      | some content => .assignment name (String.ofList content)
      | none => .broken

/-- Adds the variables of logical lines up to the first broken one. -/
def addLines : Environment → List (Option (List Char)) → Environment
  | env, [] => env
  | env, none :: _ => env
  | env, some line :: rest =>
    match readLine env line with
    | .empty => addLines env rest
    | .broken => env
    | .assignment name value => addLines (env.provide name value) rest

/-- Adds the variables of a file; a byte order mark may stand in front. -/
def load (env : Environment) (content : String) : Environment :=
  let cs := match content.toList with
    | '\ufeff' :: rest => rest
    | cs => cs
  addLines env (logicalLines .plain [] (physicalLines cs))

def runs (isOne : Char → Bool) : List Char → List (List Char)
  | [] => []
  | c :: cs =>
    if isOne c then
      match cs.head?.map isOne, runs isOne cs with
      | some true, run :: rest => (c :: run) :: rest
      | _, rest => [c] :: rest
    else runs isOne cs

/-- The names that a file gives values to or asks the values of, among other words. -/
def mentioned (content : String) : List String :=
  (runs isNameChar content.toList ++ runs isWordChar content.toList).map String.ofList

end EnvironmentFile

end SeriesScript
