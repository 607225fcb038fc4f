import SeriesScript.Evaluation.Evaluate

/-!
# Sessions

Steps on one store of streams: streams are put in, scripts run, all streams are disposed of, and the
store is looked at. A run changes nothing but how often the streams were read.
-/
namespace SeriesScript.Session

inductive Step where
  | insert (name : String) (stream : PointStream)
  /-- A run with the preferences of the session. -/
  | run (source : String)
  /-- A run with the default preferences. -/
  | runDefault (source : String)
  /-- A run that does not check the scope first. -/
  | evaluate (source : String)
  | disposeAll
  | get (name : String)
  | list

inductive Answer where
  | names (names : List String)
  | outcome (o : Outcome)
  | done
  | stream (found : Option (Kind × StreamOrder × Bool))
  /-- The names as a quoted list, and whether there are none. -/
  | listing (text : String) (isEmpty : Bool)

/-- The store after a script was tried: a script that is refused before it starts reads nothing. -/
def storeAfter (checked : Bool) (store : Store) (source : String) : Store :=
  match Program.parse source true with
  | .error _ => store
  | .ok program =>
    if checked then
      match program.scopeErrors store.names with
      | [] => store.afterRun
      | _ => store
    else store.afterRun

def evaluateScript (prefs : Window.Preferences) (store : Store) (source : String) : Outcome :=
  match Program.parse source true with
  | .ok program => program.evaluate prefs store
  | .error e => .failed (.notParsed e)

def listText (names : List String) : String :=
  "[" ++ ", ".intercalate (names.map Text.quote) ++ "]"

def step (prefs : Window.Preferences) (store : Store) : Step → Store × Answer
  | .insert name stream =>
    let next := store.insert name stream
    (next, .names next.names)
  | .run source => (storeAfter true store source, .outcome (runScript prefs store source))
  | .runDefault source =>
    (storeAfter true store source, .outcome (runScript .default store source))
  | .evaluate source =>
    (storeAfter false store source, .outcome (evaluateScript prefs store source))
  | .disposeAll => (store.disposeAll, .done)
  | .get name =>
    (store, .stream ((store.get? name).map fun s => (s.kind, s.order, s.disposed)))
  | .list => (store, .listing (listText store.names) store.names.isEmpty)

def answers (prefs : Window.Preferences) : Store → List Step → List Answer
  | _, [] => []
  | store, s :: rest =>
    let (next, answer) := step prefs store s
    answer :: answers prefs next rest

end SeriesScript.Session
