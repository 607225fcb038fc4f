/-!
# Arguments

A command is a word with options and one operand, the script. Arguments are read from left to right.
A value is only taken up when the next argument that is known begins, so an argument that is not
known is at fault before a value that came earlier.
-/
namespace SeriesScript

inductive Command where
  | check (script : String) (data : Option String) (streams : List String)
  | run (script : String) (data settings : Option String) (json : Bool)
deriving DecidableEq

inductive UsageError where
  | helpAsked
  | noCommand
  | unknownCommand
  | unknownArgument
  | scriptMissing
  | badValue
  | repeated
  | needlessValue
deriving DecidableEq

namespace CommandLine

/-- What the words of a command line are about. -/
inductive Verb where
  | check
  | run
  | help
deriving DecidableEq

def Verb.ofWord? : String → Option Verb
  | "check" => some .check
  | "run" => some .run
  | "help" => some .help
  | _ => none

inductive Flag where
  | help
  | json
deriving DecidableEq

inductive Slot where
  | script
  | data
  | settings
  | stream
deriving DecidableEq

/-- What a name behind hyphens stands for. -/
inductive Meaning where
  | flag (f : Flag)
  | slot (s : Slot)

def longOption? (verb : Verb) (name : String) : Option Meaning :=
  match verb, name with
  | _, "help" => some (.flag .help)
  | .run, "json" => some (.flag .json)
  | .check, "data" => some (.slot .data)
  | .run, "data" => some (.slot .data)
  | .run, "config" => some (.slot .settings)
  | .check, "stream" => some (.slot .stream)
  | _, _ => none

def shortOption? (verb : Verb) (letter : Char) : Option Meaning :=
  match verb, letter with
  | _, 'h' => some (.flag .help)
  | .check, 'd' => some (.slot .data)
  | .run, 'd' => some (.slot .data)
  | .run, 'c' => some (.slot .settings)
  | _, _ => none

structure Given where
  script : Option String
  data : Option String
  settings : Option String
  streams : List String
  json : Bool

namespace Given

def nothing : Given := ⟨none, none, none, [], false⟩

/-- A path, given once and not empty. -/
def path (before : Option String) (value : String) : Except UsageError (Option String) :=
  if before.isSome then .error .repeated
  else if value.isEmpty then .error .badValue
  else .ok (some value)

def supply (g : Given) (slot : Slot) (value : String) : Except UsageError Given :=
  match slot with
  | .script => (path g.script value).map fun script => { g with script }
  | .data => (path g.data value).map fun data => { g with data }
  | .settings => (path g.settings value).map fun settings => { g with settings }
  | .stream => .ok { g with streams := g.streams ++ [value] }

end Given

structure Progress where
  given : Given
  /-- The place for a value that was not taken up yet, with the value once it was read. -/
  waiting : Option (Slot × Option String)
  hasOperand : Bool
  onlyOperands : Bool

namespace Progress

def start : Progress := ⟨.nothing, none, false, false⟩

/-- Takes up the value that was read last. -/
def settle (p : Progress) : Except UsageError Progress :=
  match p.waiting with
  | none => .ok p
  | some (_, none) => .error .badValue
  | some (slot, some value) => (p.given.supply slot value).map fun given =>
    { p with given, waiting := none }

def takeOption (p : Progress) (m : Meaning) (attached : Option String) :
    Except UsageError Progress :=
  match m, attached with
  | .flag _, some _ => .error .needlessValue
  | .flag .help, none => do
    let _ ← p.settle
    throw .helpAsked
  | .flag .json, none => do
    let p ← p.settle
    if p.given.json then throw .repeated
    return { p with given := { p.given with json := true } }
  | .slot slot, some value => do
    let p ← p.settle
    return { p with given := ← p.given.supply slot value }
  | .slot slot, none => do
    let p ← p.settle
    return { p with waiting := some (slot, none) }

def takeOperand (p : Progress) (arg : String) : Except UsageError Progress :=
  if p.hasOperand then .error .unknownArgument
  else do
    let p ← p.settle
    return { p with waiting := some (.script, some arg), hasOperand := true }

/-- Reads an argument that is no option, which may be the value that an option waits for. -/
def takeWord (p : Progress) (arg : String) : Except UsageError Progress :=
  match p.waiting with
  | some (slot, none) => .ok { p with waiting := some (slot, some arg) }
  | _ => p.takeOperand arg

end Progress

inductive Form where
  | word
  | long (name : String) (attached : Option String)
  | short (letter : Char) (rest : List Char)
  /-- Two hyphens, behind which only operands follow. -/
  | divider

def Form.of (arg : String) : Form :=
  match arg.toList with
  | ['-', '-'] => .divider
  | '-' :: '-' :: cs =>
    let name := cs.takeWhile (· ≠ '=')
    match cs.drop name.length with
    | _ :: value => .long (String.ofList name) (some (String.ofList value))
    | [] => .long (String.ofList name) none
  | '-' :: c :: cs => .short c cs
  | _ => .word

/-- The value attached to a letter, with or without an equals sign. -/
def attachedTo? : List Char → Option String
  | [] => none
  | '=' :: cs => some (String.ofList cs)
  | cs => some (String.ofList cs)

def Progress.take (verb : Verb) (p : Progress) (arg : String) : Except UsageError Progress :=
  if p.onlyOperands then p.takeOperand arg
  else
    match Form.of arg with
    | .divider => .ok { p with onlyOperands := true }
    | .word => p.takeWord arg
    | .long name attached =>
      match longOption? verb name with
      | some m => p.takeOption m attached
      | none => .error .unknownArgument
    | .short letter rest =>
      match shortOption? verb letter with
      | some (.flag f) => p.takeOption (.flag f) none
      | some (.slot s) => p.takeOption (.slot s) (attachedTo? rest)
      | none => .error .unknownArgument

def read (verb : Verb) (args : List String) : Except UsageError Given := do
  let p ← args.foldlM (Progress.take verb) Progress.start
  return (← p.settle).given

/-- The help for a command, or for all; commands have no commands of their own. -/
def helpFor : List String → UsageError
  | [] => .helpAsked
  | word :: rest => if (Verb.ofWord? word).isSome ∧ rest = [] then .helpAsked else .unknownCommand

def faultWithoutVerb (arg : String) (rest : List String) : UsageError :=
  match Form.of arg, rest with
  | .divider, [] => .noCommand
  | .divider, word :: _ => if (Verb.ofWord? word).isSome then .unknownArgument else .unknownCommand
  | .word, _ => .unknownCommand
  | .long "help" none, _ => .helpAsked
  | .long "help" (some _), _ => .needlessValue
  | .long _ _, _ => .unknownArgument
  | .short letter _, _ => if letter = 'h' then .helpAsked else .unknownArgument

end CommandLine

open CommandLine in
def Command.ofArguments : List String → Except UsageError Command
  | [] => .error .noCommand
  | word :: args =>
    match Verb.ofWord? word with
    | none => .error (faultWithoutVerb word args)
    | some .help => .error (helpFor args)
    | some .check => do
      let g ← read .check args
      match g.script with
      | some script => return .check script g.data g.streams
      | none => throw .scriptMissing
    | some .run => do
      let g ← read .run args
      match g.script with
      | some script => return .run script g.data g.settings g.json
      | none => throw .scriptMissing

end SeriesScript
