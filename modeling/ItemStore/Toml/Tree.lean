import ItemStore.Json.Written

/-! # Tables of a TOML document

A document fills a tree of tables, line by line. A header opens a table once, a dotted key may only
add to tables that dotted keys made, and a table that was merely named on the way to another may
still be opened.
-/
namespace ItemStore.Toml
open Json (Written)

/-- How a table came to be. -/
inductive Origin
  /-- By a header of its own. -/
  | opened
  /-- On the way to the table of a header. -/
  | implied
  /-- By a dotted key. -/
  | dotted
  deriving DecidableEq, Repr

inductive Node
  | value (written : Written)
  | table (origin : Origin) (entries : List (String × Node))
  /-- An array of tables, of which the last one can still grow. -/
  | tables (items : List (List (String × Node)))

namespace Node

mutual

def toWritten : Node → Written
  | .value w => w
  | .table _ entries => .object (toMembers entries)
  | .tables items => .openArray (toObjects items)

def toMembers : List (String × Node) → List (Option String × Written)
  | [] => []
  | (name, node) :: rest => (some name, toWritten node) :: toMembers rest

def toObjects : List (List (String × Node)) → List Written
  | [] => []
  | entries :: rest => .object (toMembers entries) :: toObjects rest

end

end Node

abbrev Table := Entries Node

/-- An array of tables with the last one changed. -/
def changeLast? (change : Table → Option Table) : List Table → Option (List Table)
  | [] => none
  | [last] => (change last).map ([·])
  | table :: rest => (changeLast? change rest).map (table :: ·)

namespace Table

/-- Changes the table at the end of a path. Tables that are missing on the way are made, and an
array of tables leads to its last one. -/
def modify? (change : Table → Option Table) : (path : List String) → Table → Option Table
  | [], table => change table
  | name :: path, table =>
    match table.find? name with
    | none => (modify? change path []).map fun sub => table.put name (.table .implied sub)
    | some (.table origin sub) =>
      (modify? change path sub).map fun sub => table.put name (.table origin sub)
    | some (.tables items) =>
      (changeLast? (modify? change path) items).map fun items => table.put name (.tables items)
    | some (.value _) => none

/-- Opens the table of a header. -/
def open? (name : String) (table : Table) : Option Table :=
  match table.find? name with
  | none => some (table.put name (.table .opened []))
  | some (.table .implied sub) => some (table.put name (.table .opened sub))
  | _ => none

/-- Adds one more table to the array of a header in double brackets. -/
def openNext? (name : String) (table : Table) : Option Table :=
  match table.find? name with
  | none => some (table.put name (.tables [[]]))
  | some (.tables items) => some (table.put name (.tables (items ++ [[]])))
  | _ => none

/-- Puts a value under a dotted key. The table that takes it must be where the key starts, or be made
by a dotted key. -/
def assign? (value : Written) (name : String) :
    (takes : Bool) → (path : List String) → Table → Option Table
  | takes, [], table => if takes && !table.has name then some (table.put name (.value value)) else none
  | _, next :: path, table =>
    match table.find? next with
    | none => (assign? value name true path []).map fun sub => table.put next (.table .dotted sub)
    | some (.table .dotted sub) =>
      (assign? value name true path sub).map fun sub => table.put next (.table .dotted sub)
    | some (.table .implied sub) =>
      (assign? value name false path sub).map fun sub => table.put next (.table .implied sub)
    | some (.tables items) =>
      (changeLast? (assign? value name false path) items).map fun items => table.put next (.tables items)
    | some (.table .opened _) | some (.value _) => none

end Table

/-- A key, its last name apart from the names before it. -/
structure Key where
  path : List String
  name : String
  deriving DecidableEq, Repr

/-- A document as far as it is read: its tables, and the path of the header that is in force. -/
structure Document where
  table : Table := []
  header : List String := []

namespace Document

def openTable? (document : Document) (key : Key) : Option Document :=
  (Table.modify? (Table.open? key.name) key.path document.table).map fun table =>
    ⟨table, key.path ++ [key.name]⟩

def openNextTable? (document : Document) (key : Key) : Option Document :=
  (Table.modify? (Table.openNext? key.name) key.path document.table).map fun table =>
    ⟨table, key.path ++ [key.name]⟩

/-- Puts a value under a key of the table in force. -/
def assign? (document : Document) (key : Key) (value : Written) : Option Document :=
  (Table.modify? (Table.assign? value key.name true key.path) document.header document.table).map
    fun table => { document with table }

def toWritten (document : Document) : Written := .object (Node.toMembers document.table)

end Document

/-- The table that is written in one line, if its keys fit together. -/
def inlineTable? (members : List (Key × Written)) : Option Written :=
  (members.foldlM (fun table member => Table.assign? member.2 member.1.name true member.1.path table)
    ([] : Table)).map fun table => .object (Node.toMembers table)

end ItemStore.Toml
