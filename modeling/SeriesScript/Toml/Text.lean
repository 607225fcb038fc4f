import SeriesScript.Json.Reader

/-!
# Texts in TOML

A text stands between two quotes on one line, or between two runs of three quotes on any number of
lines. Between double quotes a backslash begins an escape; between single quotes it stands for
itself. Lines end with a line feed, before which a carriage return may stand.
-/
namespace SeriesScript.Toml

def isBlank (c : Char) : Bool := c == ' ' || c == '\t'

def skipBlanks (cs : List Char) : List Char := cs.dropWhile isBlank

/-- A character that may stand in a text or a comment as it is. -/
def isPlain (c : Char) : Bool := c == '\t' || (0x20 ≤ c.toNat && c.toNat != 0x7f)

def readNewline : List Char → Option (List Char)
  | '\n' :: cs => some cs
  | '\r' :: '\n' :: cs => some cs
  | _ => none

/-- How a text is written: its quote, and whether three of them enclose it. -/
structure Quoting where
  quote : Char
  long : Bool

/-- The character of a number, unless it is half of a surrogate pair or too large. -/
def scalar? (n : Nat) : Option Char := if n.isValidChar then some (Char.ofNat n) else none

/-- The character of as many hexadecimal digits as are asked for. -/
def readScalar (width : Nat) (cs : List Char) : Option (Char × List Char) := do
  let digits ← (cs.take width).mapM Json.hexValue?
  if digits.length = width then
    return (← scalar? (digits.foldl (fun (n d : Nat) => n * 16 + d) 0), cs.drop width)
  else none

/-- What follows a line end with blanks before it, and all blanks and line ends behind it. -/
def joinLines (cs : List Char) : Option (List Char) :=
  (readNewline (skipBlanks cs)).map (dropGap ·)
where
  dropGap : List Char → List Char
    | '\r' :: '\n' :: cs => dropGap cs
    | c :: cs => if isBlank c ∨ c = '\n' then dropGap cs else c :: cs
    | [] => []

/-- The characters of the escape behind a backslash. -/
def readEscape (long : Bool) : List Char → Option (List Char × List Char)
  | 'u' :: cs => (readScalar 4 cs).map fun (c, rest) => ([c], rest)
  | 'U' :: cs => (readScalar 8 cs).map fun (c, rest) => ([c], rest)
  | e :: cs =>
    match Json.shortEscape? e with
    | some c => if e = '/' then none else some ([c], cs)
    | none => if long then (joinLines (e :: cs)).map fun rest => ([], rest) else none
  | [] => none

namespace Quoting

/-- What follows the closing quotes, if they are next. Of up to five quotes in a row the last three
close the text, and the others belong to it. -/
def close? (q : Quoting) (cs : List Char) : Option (List Char × List Char) :=
  let run := cs.takeWhile (· == q.quote)
  if q.long then
    if 3 ≤ run.length then
      let inside := min (run.length - 3) 2
      some (run.take inside, cs.drop (inside + 3))
    else none
  else
    match cs with
    | c :: rest => if c = q.quote then some ([], rest) else none
    | [] => none

def readPart (q : Quoting) : List Char → Option (List Char × List Char)
  | [] => none
  | c :: cs =>
    if c = '\\' ∧ q.quote = '"' then readEscape q.long cs
    else if isPlain c then some ([c], cs)
    else if q.long then (readNewline (c :: cs)).map fun rest => (['\n'], rest)
    else none

def readContent (q : Quoting) : Nat → List Char → Option (List Char × List Char)
  | 0, _ => none
  | fuel + 1, cs =>
    match q.close? cs with
    | some closed => some closed
    | none =>
      match q.readPart cs with
      | none => none
      | some (part, rest) => (q.readContent fuel rest).map fun (content, after) =>
        (part ++ content, after)

/-- The text behind opening quotes; a line end right behind three of them is not part of it. -/
def readText (q : Quoting) (cs : List Char) : Option (String × List Char) :=
  let cs := if q.long then (readNewline cs).getD cs else cs
  (q.readContent (cs.length + 1) cs).map fun (content, rest) => (String.ofList content, rest)

end Quoting

def readLineText : List Char → Option (String × List Char)
  | '"' :: cs => Quoting.readText ⟨'"', false⟩ cs
  | '\'' :: cs => Quoting.readText ⟨'\'', false⟩ cs
  | _ => none

def readText : List Char → Option (String × List Char)
  | '"' :: '"' :: '"' :: cs => Quoting.readText ⟨'"', true⟩ cs
  | '\'' :: '\'' :: '\'' :: cs => Quoting.readText ⟨'\'', true⟩ cs
  | cs => readLineText cs

def escapeChar (c : Char) : List Char :=
  if c.toNat = 0x7f then ['\\', 'u', '0', '0', '7', 'f'] else Json.escapeChar c

def quoteText (s : String) : String :=
  String.ofList ('"' :: s.toList.flatMap escapeChar ++ ['"'])

end SeriesScript.Toml
