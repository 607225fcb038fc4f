/-!
# Paths

Paths are texts with slashes between their parts. Empty parts and single dots have no meaning,
except for a slash or a dot that a path begins with.
-/
namespace SeriesScript.Path

/-- The parts of a text between its slashes, at least one. -/
def split : List Char → List (List Char)
  | [] => [[]]
  | c :: cs =>
    if c = '/' then [] :: split cs
    else
      match split cs with
      | part :: rest => (c :: part) :: rest
      | [] => [[c]]

def isMeaningless (part : List Char) : Bool := part == [] || part == ['.']

/-- The slash or the dot that a path begins with, and the rest of the path. -/
def root (cs : List Char) : List Char × List Char :=
  match cs with
  | '/' :: rest => (['/'], rest)
  | ['.'] => (['.'], [])
  | '.' :: '/' :: rest => (['.'], '/' :: rest)
  | _ => ([], cs)

/-- The path without its last part; `none` if it has no part. -/
def parent? (path : String) : Option String :=
  let (start, body) := root path.toList
  match (split body).reverse.dropWhile isMeaningless with
  | _ :: before =>
    let kept := (before.dropWhile isMeaningless).reverse
    some (String.ofList (start ++ ['/'].intercalate kept))
  | [] => if start = ['.'] then some "" else none

def directory (path : String) : String := (parent? path).getD "."

def join (directory name : String) : String :=
  if directory.isEmpty ∨ directory.toList.getLast? = some '/' then directory ++ name
  else directory ++ "/" ++ name

end SeriesScript.Path
