import SeriesScript.Calendar.Rfc3339
import SeriesScript.Evaluation.Store
import SeriesScript.Json.Reader

/-!
# Data files

A data file is a JSON object with one member per stream, and becomes a store of the streams in the
order of their names. A stream and a point are each an object with known members, or a list of their
values in a fixed order. Members that are not known are passed over, known ones may not be repeated.
-/
namespace SeriesScript.DataFile

/-- The value of a member, `none` if it is missing; a repeated member fails. -/
def member? (name : String) (members : List (String × Json)) : Option (Option Json) :=
  match members.filter (·.1 == name) with
  | [] => some none
  | [(_, j)] => some (some j)
  | _ => none

/-- The values of the known fields, from an object or a list; a list holds none beyond them. -/
def fields? (names : List String) : Json → Option (List (Option Json))
  | .object members => names.mapM (member? · members)
  | .list items =>
    if items.length ≤ names.length then
      some (items.map some ++ List.replicate (names.length - items.length) none)
    else none
  | _ => none

/-- A field that may be missing. -/
def orDefault {α : Type} (default : α) (read : Json → Option α) : Option Json → Option α
  | none => some default
  | some j => read j

def text? : Json → Option String
  | .text s => some s
  | _ => none

def bool? : Json → Option Bool
  | .bool b => some b
  | _ => none

/-- A number that a double can hold. -/
def number? : Json → Option Float
  | .number x => if x.isInf then none else some x
  | _ => none

def list? : Json → Option (List Json)
  | .list items => some items
  | _ => none

/-- A kind by its word, also as the only member of an object. -/
def kind? : Json → Option Kind
  | .text s => Kind.ofKeyword? s
  | .object [(s, .null)] => Kind.ofKeyword? s
  | _ => none

def point? (j : Json) : Option Point := do
  match ← fields? ["timestamp", "value", "label"] j with
  | [some time, some value, label] =>
    let timestamp ← Rfc3339.parseRelaxed? (← text? time).toList
    return ⟨timestamp, .ofFloat (← number? value), ← orDefault "" text? label⟩
  | _ => none

def stream? (j : Json) : Option PointStream := do
  match ← fields? ["kind", "newest_first", "points"] j with
  | [some kind, newestFirst, points] =>
    let kind ← kind? kind
    let order := if ← orDefault false bool? newestFirst then .newestFirst else .oldestFirst
    let items ← orDefault [] list? points
    return .ofPoints kind order (← items.mapM point?)
  | _ => none

def entry? (member : String × Json) : Option (String × PointStream) :=
  (stream? member.2).map fun s => (member.1, s)

/-- Streams by name; of several with one name the last is kept. -/
def byName (streams : List (String × PointStream)) : List (String × PointStream) :=
  (Store.ofList streams).streams.mergeSort fun a b => a.1 ≤ b.1

def parse? (source : String) : Option Store :=
  match Json.parse? source with
  | some (.object members) => (members.mapM entry?).map fun streams => ⟨byName streams⟩
  | _ => none

end SeriesScript.DataFile
