import SeriesScript.Toml.Scalar
import SeriesScript.Toml.Table

/-!
# Reading TOML

A document is read line by line and then built. Lists may run over several lines with comments
between their items; inline tables stand on one line.
-/
namespace SeriesScript.Toml

def isBareChar (c : Char) : Bool :=
  Decimal.isDigit c || ('a' ≤ c && c ≤ 'z') || ('A' ≤ c && c ≤ 'Z') || c == '_' || c == '-'

def readKeyPart (cs : List Char) : Option (String × List Char) :=
  match readLineText cs with
  | some part => some part
  | none =>
    let word := cs.takeWhile isBareChar
    if word.isEmpty then none else some (String.ofList word, cs.drop word.length)

/-- The parts of a dotted key with blanks around each. -/
def readKeyParts : Nat → List Char → Option (List String × List Char)
  | 0, _ => none
  | fuel + 1, cs =>
    match readKeyPart (skipBlanks cs) with
    | none => none
    | some (part, rest) =>
      match skipBlanks rest with
      | '.' :: more => (readKeyParts fuel more).map fun (parts, after) => (part :: parts, after)
      | after => some ([part], after)

/-- Keys and containers nest to fewer levels than this. -/
def depthLimit : Nat := 80

def readKey (cs : List Char) : Option (Key × List Char) := do
  let (parts, rest) ← readKeyParts (cs.length + 1) cs
  if parts.length < depthLimit then return (← Key.ofParts? parts, rest) else none

/-- What follows blanks, line ends and comments; the flag tells that a comment goes on. -/
def skipGap : Bool → List Char → List Char
  | _, '\n' :: cs => skipGap false cs
  | _, '\r' :: '\n' :: cs => skipGap false cs
  | true, c :: cs => if isPlain c then skipGap true cs else c :: cs
  | false, c :: cs =>
    if isBlank c then skipGap false cs else if c = '#' then skipGap true cs else c :: cs
  | _, [] => []

mutual

/-- The value at the head of a text, inside at most `depth` more containers. -/
def readValue : Nat → Nat → List Char → Option (Node × List Char)
  | 0, _, _ => none
  | fuel + 1, depth, cs =>
    match cs with
    | '"' :: _ => (readText cs).map fun (s, rest) => (.text s, rest)
    | '\'' :: _ => (readText cs).map fun (s, rest) => (.text s, rest)
    | '[' :: rest =>
      match depth with
      | 0 => none
      | depth + 1 =>
        (readItems fuel depth (skipGap false rest)).map fun (items, after) => (.list items, after)
    | '\x7b' :: rest =>
      match depth with
      | 0 => none
      | depth + 1 => do
        let (entries, after) ← match skipBlanks rest with
          | '\x7d' :: after => some ([], after)
          | _ => readEntries fuel depth rest
        return (.inline (← inlineMembers? entries), after)
    | 't' :: 'r' :: 'u' :: 'e' :: rest => some (.scalar, rest)
    | 'f' :: 'a' :: 'l' :: 's' :: 'e' :: rest => some (.scalar, rest)
    | _ =>
      match skipMoment cs with
      | some rest => some (.moment, rest)
      | none => (skipNumber cs).map fun rest => (.scalar, rest)

def readItems : Nat → Nat → List Char → Option (List Node × List Char)
  | 0, _, _ => none
  | fuel + 1, depth, cs =>
    match cs with
    | ']' :: after => some ([], after)
    | _ =>
      match readValue fuel depth cs with
      | none => none
      | some (item, rest) =>
        match skipGap false rest with
        | ']' :: after => some ([item], after)
        | ',' :: more =>
          (readItems fuel depth (skipGap false more)).map fun (items, after) =>
            (item :: items, after)
        | _ => none

/-- The entries of an inline table up to its closing bracket, at least one. -/
def readEntries : Nat → Nat → List Char → Option (List (Key × Node) × List Char)
  | 0, _, _ => none
  | fuel + 1, depth, cs =>
    match readKey cs with
    | some (key, '=' :: rest) =>
      match readValue fuel depth (skipBlanks rest) with
      | none => none
      | some (node, rest) =>
        match skipBlanks rest with
        | '\x7d' :: after => some ([(key, node)], after)
        | ',' :: more =>
          (readEntries fuel depth more).map fun (entries, after) => ((key, node) :: entries, after)
        | _ => none
    | _ => none

end

/-- What follows the end of a line, which may be the end of the text, and a comment before it. -/
def readLineEnd (cs : List Char) : Option (List Char) :=
  let afterComment := match skipBlanks cs with
    | '#' :: rest => rest.dropWhile isPlain
    | rest => rest
  match afterComment with
  | [] => some []
  | rest => readNewline rest

/-- The line at the head of a text without blanks in front, up to its end. -/
def readLine (cs : List Char) : Option (Line × List Char) :=
  match cs with
  | '[' :: '[' :: rest =>
    match readKey rest with
    | some (key, ']' :: ']' :: after) => (readLineEnd after).map fun rest => (.next key, rest)
    | _ => none
  | '[' :: rest =>
    match readKey rest with
    | some (key, ']' :: after) => (readLineEnd after).map fun rest => (.header key, rest)
    | _ => none
  | _ =>
    match readKey cs with
    | some (key, '=' :: rest) => do
      let (node, after) ← readValue (2 * rest.length + 1) (depthLimit - 1) (skipBlanks rest)
      return (.entry key node, ← readLineEnd after)
    | _ => none

/-- The lines of a document, without empty ones and comments. -/
def readLines : Nat → List Char → Option (List Line)
  | 0, _ => none
  | fuel + 1, cs =>
    match skipBlanks cs with
    | [] => some []
    | c :: rest =>
      if c = '#' ∨ c = '\n' ∨ c = '\r' then
        match readLineEnd (c :: rest) with
        | some after => readLines fuel after
        | none => none
      else
        match readLine (c :: rest) with
        | some (line, after) => (readLines fuel after).map (line :: ·)
        | none => none

/-- The members of the document that a text is; a byte order mark may stand in front. -/
def parse? (s : String) : Option Members :=
  let cs := match s.toList with
    | '\ufeff' :: rest => rest
    | cs => cs
  (readLines (cs.length + 1) cs).bind Document.build?

end SeriesScript.Toml
