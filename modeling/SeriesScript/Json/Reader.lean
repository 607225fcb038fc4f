import SeriesScript.Json.Number
import SeriesScript.Json.Value

/-!
# Reading JSON

A text is read as a whole: one value with blanks around it. Containers nest without limit; the
reader is bounded by the length of the text.
-/
namespace SeriesScript.Json

def isBlank (c : Char) : Bool := c == ' ' || c == '\n' || c == '\t' || c == '\r'

def skipBlanks (cs : List Char) : List Char := cs.dropWhile isBlank

def hexValue? (c : Char) : Option Nat :=
  if '0' ≤ c ∧ c ≤ '9' then some (c.toNat - '0'.toNat)
  else if 'a' ≤ c ∧ c ≤ 'f' then some (c.toNat - 'a'.toNat + 10)
  else if 'A' ≤ c ∧ c ≤ 'F' then some (c.toNat - 'A'.toNat + 10)
  else none

def unit? (a b c d : Char) : Option Nat :=
  match hexValue? a, hexValue? b, hexValue? c, hexValue? d with
  | some a, some b, some c, some d => some (((a * 16 + b) * 16 + c) * 16 + d)
  | _, _, _, _ => none

def shortEscape? : Char → Option Char
  | '"' => some '"'
  | '\\' => some '\\'
  | '/' => some '/'
  | 'b' => some '\x08'
  | 'f' => some '\x0c'
  | 'n' => some '\n'
  | 'r' => some '\r'
  | 't' => some '\t'
  | _ => none

/-- A 16-bit unit of a text: a character of its own, or written as an escape. -/
inductive Piece where
  | char (c : Char)
  | unit (n : Nat)

/-- The pieces of a text from behind its opening quote, and what follows the closing quote. -/
def readPieces : List Char → Option (List Piece × List Char)
  | [] => none
  | '"' :: rest => some ([], rest)
  | '\\' :: 'u' :: a :: b :: c :: d :: rest =>
    match unit? a b c d, readPieces rest with
    | some n, some (pieces, after) => some (.unit n :: pieces, after)
    | _, _ => none
  | '\\' :: e :: rest =>
    match shortEscape? e, readPieces rest with
    | some c, some (pieces, after) => some (.char c :: pieces, after)
    | _, _ => none
  | c :: rest =>
    if c.toNat < 0x20 ∨ c = '\\' then none
    else
      match readPieces rest with
      | some (pieces, after) => some (.char c :: pieces, after)
      | none => none

def isHighHalf (n : Nat) : Bool := 0xD800 ≤ n && n < 0xDC00

def isLowHalf (n : Nat) : Bool := 0xDC00 ≤ n && n < 0xE000

/-- The characters of the pieces, unless half of a surrogate pair stands alone. -/
def characters? : List Piece → Option (List Char)
  | [] => some []
  | .char c :: rest => (characters? rest).map (c :: ·)
  | .unit high :: rest =>
    if isHighHalf high then
      match rest with
      | .unit low :: more =>
        if isLowHalf low then
          (characters? more).map
            (Char.ofNat (0x10000 + (high - 0xD800) * 0x400 + (low - 0xDC00)) :: ·)
        else none
      | _ => none
    else if isLowHalf high then none
    else (characters? rest).map (Char.ofNat high :: ·)

/-- The text behind an opening quote, `none` inside for one without content. -/
def readText (cs : List Char) : Option (Option String × List Char) :=
  (readPieces cs).map fun (pieces, rest) => ((characters? pieces).map String.ofList, rest)

/-- An object of its members, in order; without content if one of the names has none. -/
def objectOf (members : List (Option String × Json)) : Json :=
  if members.all (·.1.isSome) then
    object (members.filterMap fun (name, j) => name.map fun n => (n, j))
  else broken

def readWord (word : List Char) (j : Json) (cs : List Char) : Option (Json × List Char) :=
  if word.isPrefixOf cs then some (j, cs.drop word.length) else none

mutual

/-- The value at the head of a text without blanks in front. -/
def readValue : Nat → List Char → Option (Json × List Char)
  | 0, _ => none
  | fuel + 1, cs =>
    match cs with
    | '"' :: rest =>
      (readText rest).map fun (content, after) =>
        (match content with
        | some s => text s
        | none => broken, after)
    | '[' :: rest =>
      match skipBlanks rest with
      | ']' :: after => some (list [], after)
      | items => (readItems fuel items).map fun (js, after) => (list js, after)
    | '\x7b' :: rest =>
      match skipBlanks rest with
      | '\x7d' :: after => some (object [], after)
      | members => (readMembers fuel members).map fun (ms, after) => (objectOf ms, after)
    | 't' :: _ => readWord ['t', 'r', 'u', 'e'] (bool true) cs
    | 'f' :: _ => readWord ['f', 'a', 'l', 's', 'e'] (bool false) cs
    | 'n' :: _ => readWord ['n', 'u', 'l', 'l'] null cs
    | _ => (readNumber cs).map fun (x, after) => (number x, after)

/-- The items of a list up to its closing bracket, at least one. -/
def readItems : Nat → List Char → Option (List Json × List Char)
  | 0, _ => none
  | fuel + 1, cs =>
    match readValue fuel cs with
    | none => none
    | some (j, rest) =>
      match skipBlanks rest with
      | ']' :: after => some ([j], after)
      | ',' :: more => (readItems fuel (skipBlanks more)).map fun (js, after) => (j :: js, after)
      | _ => none

/-- The members of an object up to its closing bracket, at least one. -/
def readMembers : Nat → List Char → Option (List (Option String × Json) × List Char)
  | 0, _ => none
  | fuel + 1, cs =>
    match cs with
    | '"' :: rest =>
      match readText rest with
      | none => none
      | some (name, rest) =>
        match skipBlanks rest with
        | ':' :: rest =>
          match readValue fuel (skipBlanks rest) with
          | none => none
          | some (j, rest) =>
            match skipBlanks rest with
            | '\x7d' :: after => some ([(name, j)], after)
            | ',' :: more =>
              (readMembers fuel (skipBlanks more)).map fun (ms, after) => ((name, j) :: ms, after)
            | _ => none
        | _ => none
    | _ => none

end

def parse? (s : String) : Option Json :=
  let cs := s.toList
  match readValue (2 * cs.length + 1) (skipBlanks cs) with
  | some (j, rest) => if (skipBlanks rest).isEmpty then some j else none
  | none => none

end SeriesScript.Json
