import SeriesScript.CommandLine.Execute

/-!
# The program

Reads the files and variables that a command may ask for, and writes what the command says.
-/
namespace SeriesScript.Main

def usage : String :=
  "Run trafoscript transformations over time-series data\n\n" ++
  "Usage: trafoscript check <SCRIPT> [--data <FILE>] [--stream <NAME>]...\n" ++
  "       trafoscript run <SCRIPT> [--data <FILE>] [--config <FILE>] [--json]\n\n" ++
  "Commands:\n" ++
  "  check  Check a script for scope errors without running it\n" ++
  "  run    Evaluate a script and print the resulting variables\n\n" ++
  "Options:\n" ++
  "  -d, --data <FILE>    Data file with the external streams\n" ++
  "  -c, --config <FILE>  Configuration file (defaults to trafoscript.toml next to the script)\n" ++
  "      --stream <NAME>  Extra stream name to treat as declared (repeatable)\n" ++
  "      --json           Print the variables as JSON\n" ++
  "  -h, --help           Print help\n"

def usageFault : UsageError → Option String
  | .helpAsked => none
  | .noCommand => none
  | .unknownCommand => some "unrecognized subcommand"
  | .unknownArgument => some "unexpected argument"
  | .scriptMissing => some "the script is missing"
  | .badValue => some "an option has no value"
  | .repeated => some "an option cannot be used multiple times"
  | .needlessValue => some "an option takes no value"

/-- What a path leads to. A path through something that is no directory cannot be opened and leads
to nothing; a directory can be opened and not be read. -/
def look (path : String) : IO FileState := do
  try
    return .text (← IO.FS.readFile path)
  catch
    | .noFileOrDirectory .. => return .missing
    | .inappropriateType (some _) .. => return .missing
    | _ => return .unreadable

def isEnvironmentFile (path : String) : Bool :=
  path == World.environmentFileName || path.endsWith ("/" ++ World.environmentFileName)

def readVariables (names : List String) : IO Environment := do
  let mut found : Environment := []
  for name in names do
    if let some value ← IO.getEnv name then found := found.provide name value
  return found

/-- The part of the world that a command may read. -/
def readWorld (c : Command) : IO World := do
  let files ← c.paths.mapM fun path => do return (path, ← look path)
  let mentioned := files.flatMap fun (path, state) =>
    if isEnvironmentFile path then EnvironmentFile.mentioned (state.content?.getD "") else []
  let environment ←
    readVariables (Settings.firstDayVariable :: Settings.startOfDayVariable :: mentioned)
  return ⟨fun path => (files.lookup path).getD .missing, environment⟩

def failureText : Failure → String
  | .dataUnreadable path => "Failed to read data file " ++ path
  | .dataInvalid path => "Invalid data file " ++ path
  | .script message cause => message ++ "\n\nCaused by:\n    " ++ cause.message
  | .other message => message

def execute (c : Command) : IO UInt32 := do
  let stdout ← IO.getStdout
  let colors := (← stdout.isTty) && (← IO.getEnv "NO_COLOR").isNone
  let t := c.execute (← readWorld c) colors
  for v in t.printed do stdout.putStrLn v.render
  stdout.putStr t.output
  match t.failure with
  | none => return 0
  | some f =>
    IO.eprintln ("Error: " ++ failureText f)
    return 1

end SeriesScript.Main

open SeriesScript in
def main (args : List String) : IO UInt32 := do
  match Command.ofArguments args with
  | .ok c => Main.execute c
  | .error .helpAsked =>
    IO.print Main.usage
    return 0
  | .error e =>
    match Main.usageFault e with
    | some fault => IO.eprintln ("error: " ++ fault ++ "\n\n" ++ Main.usage)
    | none => IO.eprint Main.usage
    return 2
