import SeriesScript.Evaluation.Bindings
import SeriesScript.Series.Operations

/-!
# Streams

A stream delivers the points of one series to a run, in either order of time. Reads are counted, and
a stream that was disposed of gives nothing any more. A store holds named streams in the order of
their first insertion; each run starts from one series per stream, oldest point first.
-/
namespace SeriesScript

inductive StreamOrder where
  | oldestFirst
  | newestFirst
deriving DecidableEq, Inhabited

def StreamOrder.name : StreamOrder → String
  | oldestFirst => "OldestFirst"
  | newestFirst => "NewestFirst"

structure PointStream where
  kind : Kind
  order : StreamOrder
  /-- What a read delivers. -/
  content : Except ScriptError (List Point)
  /-- Whether disposal takes effect. -/
  disposable : Bool
  disposed : Bool
  reads : Nat

namespace PointStream

def ofPoints (kind : Kind) (order : StreamOrder) (points : List Point) : PointStream :=
  ⟨kind, order, .ok points, true, false, 0⟩

def disposedMessage : String := "stream was already disposed"

def points (s : PointStream) : Except ScriptError (List Point) :=
  if s.disposed then .error (.streamFailed "in-memory" disposedMessage) else s.content

/-- The stream after a read; only a read that delivers points counts. -/
def read (s : PointStream) : PointStream :=
  match s.points with
  | .ok _ => { s with reads := s.reads + 1 }
  | .error _ => s

def dispose (s : PointStream) : PointStream := { s with disposed := s.disposable || s.disposed }

def arrange (order : StreamOrder) (points : List Point) : List Point :=
  match order with
  | .oldestFirst => Series.oldestFirst points
  | .newestFirst => Series.oldestFirst points.reverse

def series (s : PointStream) (name : String) : Except ScriptError Series :=
  if s.disposed then .error (.streamFailed name disposedMessage)
  else
    match s.content with
    | .ok points => .ok ⟨arrange s.order points, s.kind⟩
    | .error (.streamFailed _ message) => .error (.streamFailed name message)
    | .error e => .error e

end PointStream

structure Store where
  streams : List (String × PointStream)

namespace Store

def empty : Store := ⟨[]⟩

/-- Puts a stream under a name: at the place of the one it replaces, or else at the end. -/
def insertInto (name : String) (s : PointStream) :
    List (String × PointStream) → List (String × PointStream)
  | [] => [(name, s)]
  | entry :: rest =>
    if entry.1 = name then (entry.1, s) :: rest else entry :: insertInto name s rest

def insert (store : Store) (name : String) (s : PointStream) : Store :=
  ⟨insertInto name s store.streams⟩

def ofList (streams : List (String × PointStream)) : Store :=
  streams.foldl (fun store entry => store.insert entry.1 entry.2) empty

def get? (store : Store) (name : String) : Option PointStream := store.streams.lookup name

def names (store : Store) : List String := store.streams.map Prod.fst

def disposeAll (store : Store) : Store := ⟨store.streams.map fun (name, s) => (name, s.dispose)⟩

/-- The series of the streams, bound in order; the first stream that cannot be read ends it. -/
def bindAll : List (String × PointStream) → Bindings → Except ScriptError Bindings
  | [], b => .ok b
  | (name, s) :: rest, b =>
    match s.series name with
    | .ok data => bindAll rest ((b.declare? name (.series data)).getD b)
    | .error e => .error e

def bindings (store : Store) : Except ScriptError Bindings := bindAll store.streams .empty

/-- The streams after each was read in order, up to the first that cannot be read. -/
def readAll : List (String × PointStream) → List (String × PointStream)
  | [] => []
  | (name, s) :: rest =>
    match s.series name with
    | .ok _ => (name, s.read) :: readAll rest
    | .error _ => (name, s) :: rest

def afterRun (store : Store) : Store := ⟨readAll store.streams⟩

end Store

end SeriesScript
