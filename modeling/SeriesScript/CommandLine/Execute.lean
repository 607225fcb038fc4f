import SeriesScript.CommandLine.Arguments
import SeriesScript.Evaluation.Evaluate
import SeriesScript.Files.DataFile
import SeriesScript.Files.Path
import SeriesScript.Files.Settings
import SeriesScript.Report.Listing

/-!
# Commands

A command reads its files and variables from the world it runs in and changes nothing there. A check
reads the script before the data; a run reads the settings first, then the script, then the data.
-/
namespace SeriesScript

inductive FileState where
  | missing
  /-- There is something that cannot be read as a text. -/
  | unreadable
  | text (content : String)

namespace FileState

def isThere : FileState → Bool
  | missing => false
  | _ => true

def content? : FileState → Option String
  | text content => some content
  | _ => none

end FileState

structure World where
  file : String → FileState
  environment : Environment

inductive Failure where
  | dataUnreadable (path : String)
  | dataInvalid (path : String)
  /-- A script error, with what it kept from being done. -/
  | script (message : String) (cause : ScriptError)
  | other (message : String)

namespace World

def readScript (w : World) (path : String) : Except Failure String :=
  match (w.file path).content? with
  | some source => .ok source
  | none => .error (.other ("Failed to read script " ++ path))

/-- The streams of a data file, none without one. -/
def readData (w : World) : Option String → Except Failure Store
  | none => .ok .empty
  | some path =>
    match (w.file path).content? with
    | none => .error (.dataUnreadable path)
    | some content =>
      match DataFile.parse? content with
      | some store => .ok store
      | none => .error (.dataInvalid path)

def readSettings (w : World) (path : String) : Except Failure Settings :=
  match (w.file path).content? with
  | none => .error (.other ("Failed to read " ++ path))
  | some content =>
    match Settings.parse? content with
    | some settings => .ok settings
    | none => .error (.other ("Invalid configuration in " ++ path))

def environmentFileName : String := ".env"

def settingsFileName : String := "trafoscript.toml"

def environmentIn (w : World) (directory : String) : Environment :=
  match (w.file (Path.join directory environmentFileName)).content? with
  | some content => EnvironmentFile.load w.environment content
  | none => w.environment

def settingsFrom (w : World) (path : String) : Except Failure Settings :=
  if (w.file path).isThere then
    (w.readSettings path).map fun s => s.override (w.environmentIn (Path.directory path))
  else .error (.other ("Configuration file not found: " ++ path))

/-- The settings next to a script, the default ones without a file. -/
def settingsBeside (w : World) (script : String) : Except Failure Settings :=
  let directory := Path.directory script
  let path := Path.join directory settingsFileName
  let settings := if (w.file path).isThere then w.readSettings path else .ok .default
  settings.map fun s => s.override (w.environmentIn directory)

def preferences (w : World) (script : String) (settings : Option String) :
    Except Failure Window.Preferences :=
  let found := match settings with
    | some path => w.settingsFrom path
    | none => w.settingsBeside script
  match found with
  | .error e => .error e
  | .ok s =>
    match s.preferences with
    | .error fault => .error (.other fault.message)
    | .ok prefs => .ok prefs

/-- The scope errors of a script file; the streams of the data file and the given names are known to
it. -/
def checkFile (w : World) (script : String) (data : Option String) (streams : List String) :
    Except Failure (List ScopeError) := do
  let source ← w.readScript script
  match Program.parse source true with
  | .error e => throw (.script ("Failed to parse " ++ script) (.notParsed e))
  | .ok program => do
    let store ← w.readData data
    return program.scopeErrors (streams ++ store.names)

def runFile (w : World) (script : String) (data settings : Option String) :
    Except Failure Outcome := do
  let prefs ← w.preferences script settings
  let source ← w.readScript script
  let store ← w.readData data
  return runScript prefs store source

end World

/-- What a command writes, what the script printed, and why the command failed if it did. -/
structure Transcript where
  output : String
  printed : List Value
  failure : Option Failure

namespace Transcript

def ofFailure (f : Failure) : Transcript := ⟨"", [], some f⟩

/-- The listing of scope errors, which are a failure. -/
def ofScopeErrors (colors : Bool) (script : String) (printed : List Value)
    (errors : List ScopeError) : Transcript :=
  ⟨Report.scopeErrors colors errors, printed,
    some (.other (toString errors.length ++ " validation error(s) in " ++ script))⟩

def ofCheck (colors : Bool) (script : String) : List ScopeError → Transcript
  | [] => ⟨Report.Style.green.paint colors "✓" ++ " " ++ script ++ " is valid\n", [], none⟩
  | errors => ofScopeErrors colors script [] errors

def ofRun (colors json : Bool) (script : String) (o : Outcome) : Transcript :=
  match o.result with
  | .ok b =>
    ⟨if json then b.toJson.pretty ++ "\n" else Report.bindings colors b, o.printed, none⟩
  | .error (.invalid errors) => ofScopeErrors colors script o.printed errors
  | .error e =>
    ⟨Report.failureLine colors e.message, o.printed, some (.script ("Failed to run " ++ script) e)⟩

end Transcript

def Command.execute (w : World) (colors : Bool) : Command → Transcript
  | .check script data streams =>
    match w.checkFile script data streams with
    | .ok errors => .ofCheck colors script errors
    | .error f => .ofFailure f
  | .run script data settings json =>
    match w.runFile script data settings with
    | .ok o => .ofRun colors json script o
    | .error f => .ofFailure f

def Command.paths : Command → List String
  | .check script data _ => script :: data.toList
  | .run script data settings _ =>
    let directory := Path.directory (settings.getD script)
    script :: data.toList ++
      [settings.getD (Path.join directory World.settingsFileName),
        Path.join directory World.environmentFileName]

end SeriesScript
