import SeriesScript.Decimal.Layout
import SeriesScript.Text.Quoted

/-!
# JSON values and their text

Objects keep their members in order, repeated names included. The compact text has no blanks; the
pretty text puts every item and member on a line of its own, indented by two spaces for each level.
-/
namespace SeriesScript

inductive Json where
  | null
  | bool (b : Bool)
  | number (x : Float)
  | text (s : String)
  /-- A text with an escape for one half of a surrogate pair, or an object with such a member name:
  well formed, but without content. -/
  | broken
  | list (items : List Json)
  | object (members : List (String × Json))
deriving Inhabited

namespace Json

def escapeChar (c : Char) : List Char :=
  if c = '"' then ['\\', '"']
  else if c = '\\' then ['\\', '\\']
  else if c = '\n' then ['\\', 'n']
  else if c = '\r' then ['\\', 'r']
  else if c = '\t' then ['\\', 't']
  else if c = '\x08' then ['\\', 'b']
  else if c = '\x0c' then ['\\', 'f']
  else if c.toNat < 0x20 then
    let digits := SeriesScript.Text.hexDigits c.toNat
    ['\\', 'u'] ++ List.replicate (4 - digits.length) '0' ++ digits
  else [c]

def quoteText (s : String) : String :=
  String.ofList ('"' :: s.toList.flatMap escapeChar ++ ['"'])

/-- A number with the fewest digits; JSON has no infinities and no NaN. -/
def numberText (x : Float) : String :=
  match Decimal.Dyadic.ofFloat? x with
  | some _ => Decimal.json.render x
  | none => "null"

def scalarText : Json → String
  | bool true => "true"
  | bool false => "false"
  | number x => numberText x
  | text s => quoteText s
  | _ => "null"

def enclose (opening closing : String) (parts : List String) : String :=
  opening ++ ",".intercalate parts ++ closing

mutual

def compact : Json → String
  | list items => enclose "[" "]" (compactItems items)
  | object members => enclose "\x7b" "\x7d" (compactMembers members)
  | j => scalarText j

def compactItems : List Json → List String
  | [] => []
  | j :: rest => j.compact :: compactItems rest

def compactMembers : List (String × Json) → List String
  | [] => []
  | (name, j) :: rest => (quoteText name ++ ":" ++ j.compact) :: compactMembers rest

end

def indentation (depth : Nat) : String := String.ofList (List.replicate (2 * depth) ' ')

/-- A container from the texts of its parts, each on a line of its own. -/
def encloseLines (opening closing : String) (depth : Nat) (parts : List String) : String :=
  if parts.isEmpty then opening ++ closing
  else
    let lines := parts.map fun part => "\n" ++ indentation (depth + 1) ++ part
    opening ++ ",".intercalate lines ++ "\n" ++ indentation depth ++ closing

mutual

def prettyAt (depth : Nat) : Json → String
  | list items => encloseLines "[" "]" depth (prettyItems (depth + 1) items)
  | object members => encloseLines "\x7b" "\x7d" depth (prettyMembers (depth + 1) members)
  | j => scalarText j

def prettyItems (depth : Nat) : List Json → List String
  | [] => []
  | j :: rest => j.prettyAt depth :: prettyItems depth rest

def prettyMembers (depth : Nat) : List (String × Json) → List String
  | [] => []
  | (name, j) :: rest => (quoteText name ++ ": " ++ j.prettyAt depth) :: prettyMembers depth rest

end

def pretty (j : Json) : String := j.prettyAt 0

end Json

end SeriesScript
