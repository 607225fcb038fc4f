import SeriesScript.Files.Environment
import SeriesScript.Toml.Reader
import SeriesScript.Window.Fixed

/-!
# Settings

A settings file is a TOML document with a table `aggregation` of texts. Environment variables take
precedence over it. The texts get their meaning only when a run needs them; of several texts without
meaning the first setting in order is at fault.
-/
namespace SeriesScript

structure Settings where
  firstDayOfWeek : String
  startOfDay : String
  endTime : Option String
deriving DecidableEq

/-- A setting with a text that has no meaning. -/
inductive SettingsFault where
  | firstDayOfWeek (text : String)
  | startOfDay (text : String)
  | endTime (text : String)

def SettingsFault.message : SettingsFault → String
  | firstDayOfWeek text => "Invalid first_day_of_week '" ++ text ++ "'"
  | startOfDay text => "Invalid start_of_day '" ++ text ++ "', expected HH:MM"
  | endTime text => "Invalid end_time '" ++ text ++ "', expected RFC 3339"

namespace Settings

def default : Settings := ⟨"monday", "00:00", none⟩

/-! ## Files -/

/-- The text of a field, or what stands for a missing one. -/
def field? {α : Type} (missing : α) (ofText : String → α) : Option Toml.Node → Option α
  | none => some missing
  | some (.text s) => some (ofText s)
  | some _ => none

def ofFields? (firstDay startOfDay endTime : Option Toml.Node) : Option Settings := do
  return ⟨← field? default.firstDayOfWeek id firstDay, ← field? default.startOfDay id startOfDay,
    ← field? default.endTime some endTime⟩

def ofMembers? (members : Toml.Members) : Option Settings :=
  ofFields? (members.lookup "first_day_of_week") (members.lookup "start_of_day")
    (members.lookup "end_time")

/-- The settings of a node: a table, or a list of the fields in order. A date has no fields. -/
def ofNode? : Toml.Node → Option Settings
  | .table _ members => ofMembers? members
  | .inline members => ofMembers? members
  | .moment => some default
  | .list items => ofFields? items[0]? items[1]? items[2]?
  | _ => none

def parse? (source : String) : Option Settings :=
  (Toml.parse? source).bind fun members =>
    match members.lookup "aggregation" with
    | some node => ofNode? node
    | none => some default

def entryText (name value : String) : String := name ++ " = " ++ Toml.quoteText value ++ "\n"

def render (s : Settings) : String :=
  "[aggregation]\n" ++ entryText "first_day_of_week" s.firstDayOfWeek ++
    entryText "start_of_day" s.startOfDay ++
    (match s.endTime with
    | some text => entryText "end_time" text
    | none => "")

/-! ## Environment -/

def firstDayVariable : String := "TRAFOSCRIPT_FIRST_DAY_OF_WEEK"

def startOfDayVariable : String := "TRAFOSCRIPT_START_OF_DAY"

/-- The value of a variable in place of a text; an empty value does not count. -/
def overridden (env : Environment) (name text : String) : String :=
  match env.get? name with
  | some value => if value.isEmpty then text else value
  | none => text

def override (s : Settings) (env : Environment) : Settings :=
  { s with
    firstDayOfWeek := overridden env firstDayVariable s.firstDayOfWeek
    startOfDay := overridden env startOfDayVariable s.startOfDay }

/-! ## Meaning -/

open Rfc3339 (readDigits readChar skipBlanks) in
/-- Hours and minutes of one or two digits, with blanks before either. -/
def startOfDay? (text : String) : Option Duration := do
  let (hour, cs) ← readDigits 1 2 (skipBlanks text.toList)
  let (_, cs) ← readChar ':' cs
  let (minute, cs) ← readDigits 1 2 (skipBlanks cs)
  if cs.isEmpty ∧ hour ≤ 23 ∧ minute ≤ 59 then Duration.ofSeconds? (hour * 3600 + minute * 60)
  else none

def preferences (s : Settings) : Except SettingsFault Window.Preferences :=
  match Calendar.Weekday.ofName? s.firstDayOfWeek with
  | none => .error (.firstDayOfWeek s.firstDayOfWeek)
  | some firstDay =>
    match startOfDay? s.startOfDay with
    | none => .error (.startOfDay s.startOfDay)
    | some start =>
      match s.endTime with
      | none => .ok ⟨firstDay, start, none⟩
      | some text =>
        match Rfc3339.parse? text.toList with
        | none => .error (.endTime text)
        | some time => .ok ⟨firstDay, start, some time⟩

end Settings

end SeriesScript
