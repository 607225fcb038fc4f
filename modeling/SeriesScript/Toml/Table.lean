/-!
# Tables in TOML

A document is built entry by entry. A table comes to be by its own header, by a longer header that
leads through it, or by a dotted key; it may be opened by a header of its own only once, and dotted
keys extend no table that has one. Inline tables and lists are closed: nothing is added to them.
-/
namespace SeriesScript.Toml

/-- How a table came to be. -/
inductive Origin where
  | header
  | passed
  | dotted
deriving DecidableEq

inductive Node where
  | text (s : String)
  /-- A number or a truth value. -/
  | scalar
  /-- A date or a time. -/
  | moment
  | list (items : List Node)
  | inline (members : List (String × Node))
  | table (origin : Origin) (members : List (String × Node))
  /-- The tables that headers in double brackets opened under one name. -/
  | tables (items : List (List (String × Node)))

abbrev Members := List (String × Node)

namespace Members

/-- Puts a node in place of the one with its name, or else at the end. -/
def put (name : String) (node : Node) : Members → Members
  | [] => [(name, node)]
  | m :: rest => if m.1 = name then (name, node) :: rest else m :: put name node rest

/-- Changes the table that a path leads to. Tables that are missing on the way come to be; of
several tables under one name the path leads through the last. With `dotted` the path is a dotted
key. -/
def update (dotted : Bool) (change : Origin → Members → Option Members) :
    List String → Origin → Members → Option Members
  | [], origin, members => change origin members
  | name :: path, _, members =>
    match members.lookup name with
    | none =>
      let origin := if dotted then .dotted else .passed
      (update dotted change path origin []).map fun inner => members.put name (.table origin inner)
    | some (.table origin inner) =>
      if dotted ∧ origin = .header then none
      else
        (update dotted change path origin inner).map fun inner =>
          members.put name (.table origin inner)
    | some (.tables items) =>
      (update dotted change path .header (items.getLastD [])).map fun last =>
        members.put name (.tables (items.dropLast ++ [last]))
    | some _ => none

/-- Adds an entry under a dotted key, the last part of which must be new. -/
def insert (path : List String) (name : String) (node : Node) : Origin → Members → Option Members :=
  update true (fun origin members =>
    if (origin = .dotted ↔ path = []) then none
    else
      match members.lookup name with
      | none => some (members.put name node)
      | some _ => none) path

def openTable (path : List String) (name : String) (members : Members) : Option Members :=
  update false (fun _ members =>
    match members.lookup name with
    | none => some (members.put name (.table .header []))
    | some (.table .passed inner) => some (members.put name (.table .header inner))
    | some _ => none) path .header members

/-- Opens one more table of a header in double brackets. -/
def openNext (path : List String) (name : String) (members : Members) : Option Members :=
  update false (fun _ members =>
    match members.lookup name with
    | none => some (members.put name (.tables [[]]))
    | some (.tables items) => some (members.put name (.tables (items ++ [[]])))
    | some _ => none) path .header members

end Members

/-- A dotted key: what leads to a name, and the name. -/
structure Key where
  path : List String
  name : String

namespace Key

def parts (k : Key) : List String := k.path ++ [k.name]

def ofParts? (parts : List String) : Option Key :=
  parts.getLast?.map fun name => ⟨parts.dropLast, name⟩

end Key

def inlineMembers? (entries : List (Key × Node)) : Option Members :=
  entries.foldlM (fun members (key, node) => members.insert key.path key.name node .header) []

inductive Line where
  | header (key : Key)
  | next (key : Key)
  | entry (key : Key) (node : Node)

/-- A document so far, and the header of the table that entries are added to. -/
structure Document where
  current : List String
  members : Members

namespace Document

def empty : Document := ⟨[], []⟩

def add (d : Document) : Line → Option Document
  | .header key => (d.members.openTable key.path key.name).map fun members => ⟨key.parts, members⟩
  | .next key => (d.members.openNext key.path key.name).map fun members => ⟨key.parts, members⟩
  | .entry key node =>
    (d.members.update false (Members.insert key.path key.name node) d.current .header).map
      fun members => ⟨d.current, members⟩

/-- The members of the document of some lines, unless a line contradicts an earlier one. -/
def build? (lines : List Line) : Option Members := (lines.foldlM add empty).map (·.members)

end Document

end SeriesScript.Toml
