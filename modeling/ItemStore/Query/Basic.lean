import ItemStore.Json.Printer
import ItemStore.Json.Record
import ItemStore.Text.Blank
import ItemStore.Time.Format

/-! # Queries

A query is a statement together with what the caller wants done with its rows: how many to return,
which attributes to read as times, and how to order them.
-/
namespace ItemStore
open Json (Decoder Record)

inductive Direction
  | ascending
  | descending
  deriving DecidableEq, Repr

namespace Direction

def ofForward (forward : Bool) : Direction := if forward then .ascending else .descending

/-- The keyword in a statement. -/
def keyword : Direction → String
  | .ascending => "ASC"
  | .descending => "DESC"

def word : Direction → String
  | .ascending => "asc"
  | .descending => "desc"

/-- Only the exact word for descending is taken as such. -/
def ofWord (word : String) : Direction := if word = "desc" then .descending else .ascending

end Direction

/-- An attribute that the caller wants read as a time. -/
structure TimeAttribute where
  name : String
  hint : String := ""
  deriving DecidableEq, Repr

structure Query where
  statement : String := ""
  /-- The most rows to return. -/
  limit : Option Nat := none
  timeAttributes : List TimeAttribute := []
  /-- The sort key for which the caller asks the store. -/
  sortKey : Option String := none
  /-- The attribute by which the rows are to be sorted after they arrive. -/
  sortBy : Option String := none
  direction : Direction := .ascending
  /-- Asks the store for its own order, and in which direction. -/
  scanForward : Option Bool := none
  deriving DecidableEq, Repr

namespace Query

/-- A limit of zero is none. -/
def withLimit (query : Query) (limit : Nat) : Query :=
  { query with limit := if limit = 0 then none else some limit }

def withSortBy (query : Query) (attributeName : String) (direction : Direction) : Query :=
  { query with sortBy := some attributeName, direction }

def withSortKey (query : Query) (key : String) : Query := { query with sortKey := some key }

def withScanForward (query : Query) (forward : Bool) : Query :=
  { query with scanForward := some forward }

def withTimeAttribute (query : Query) (name hint : String) : Query :=
  { query with timeAttributes := query.timeAttributes ++ [⟨name, hint⟩] }

/-- The sort key without blanks around it, if anything is left of it. -/
def requestedSortKey (query : Query) : Option String :=
  (query.sortKey.map Text.trimmed).filter (· ≠ "")

def explicitSort (query : Query) : Option String := query.sortBy.filter (· ≠ "")

/-- The time formats by attribute. A later hint for a name replaces an earlier one. -/
def formats (query : Query) : Entries TimeFormat :=
  query.timeAttributes.foldl (fun formats a => TimeFormat.putHint formats a.name a.hint) []

end Query

/-! ### JSON form -/

namespace TimeAttribute

def toJson (a : TimeAttribute) : Json :=
  .object [("name", .string a.name), ("format", .string a.hint)]

def read : Decoder TimeAttribute := fun levels w => do
  let r ← Record.ofWritten? ["name", "format"] levels w
  let name ← r.required "name" .text
  let hint ← r.withDefault "format" "" .text
  some { name, hint }

end TimeAttribute

/-- Any text is taken, and null too. -/
def Direction.read : Decoder Direction :=
  .map (fun word => Direction.ofWord (word.getD "")) (.optional .text)

namespace Query

def orNull {α : Type} (encode : α → Json) (value : Option α) : Json := (value.map encode).getD .null

def toJson (query : Query) : Json :=
  .object [
    ("queryText", .string query.statement),
    ("limit", orNull .ofNat query.limit),
    ("datetimeAttributes", .array (query.timeAttributes.map TimeAttribute.toJson)),
    ("sortKey", orNull .string query.sortKey),
    ("sortBy", orNull .string query.sortBy),
    ("sortDirection", .string query.direction.word),
    ("scanIndexForward", orNull .bool query.scanForward)]

/-- A limit that is not positive is none. -/
def readLimit : Decoder (Option Nat) :=
  .map (fun limit => (limit.filter (0 < ·)).map Int.toNat) (.optional .int64)

def read : Decoder Query := fun levels w => do
  let r ← Record.ofWritten?
    ["queryText", "limit", "datetimeAttributes", "sortKey", "sortBy", "sortDirection",
      "scanIndexForward"] levels w
  let statement ← r.withDefault "queryText" "" .text
  let limit ← r.withDefault "limit" none readLimit
  let timeAttributes ← r.withDefault "datetimeAttributes" [] (.list TimeAttribute.read)
  let sortKey ← r.withDefault "sortKey" none (.optional .text)
  let sortBy ← r.withDefault "sortBy" none (.optional .text)
  let direction ← r.withDefault "sortDirection" .ascending Direction.read
  let scanForward ← r.withDefault "scanIndexForward" none (.optional .flag)
  some { statement, limit, timeAttributes, sortKey, sortBy, direction, scanForward }

/-- The query of a JSON text. What a reader finds wrong with any other text is not told, and "no query"
stands for it. -/
def ofBytes (bytes : List UInt8) : Except Failure Query :=
  match read.run (Text.symbols bytes) with
  | some query => .ok query
  | none => .error (.validation "json unmarshal: no query")

end Query

end ItemStore
