import ItemStore.Query.Statement
import ItemStore.Store

/-! # What the store holds

The names of all tables, the attributes that are known of a table, and whether the store can be
reached at all.
-/
namespace ItemStore
open Json (Decoder Record)

namespace Store

/-- How many names are asked for at a time. -/
def listingSize : Nat := 100

/-- The names of the tables from a start on, while at most `left` pages follow the first. -/
def namesFrom (left : Nat) (start : Option String) (store : Store) :
    Except Failure (List String) × Store :=
  match store.list { start, limit := some listingSize } with
  | (.error failure, store) => (.error failure, store)
  | (.ok page, store) =>
    match page.last, left with
    | some last, left + 1 =>
      match namesFrom left (some last) store with
      | (.ok names, store) => (.ok (page.names ++ names), store)
      | failed => failed
    | _, _ => (.ok page.names, store)

/-- The names of all tables. Only an answer that is still to come can point to a further page, so
their number bounds the pages. -/
def allNames (store : Store) : Except Failure (List String) × Store :=
  namesFrom store.namePages.length none store

/-- How many items are looked at for the names of attributes. -/
def sampleSize : Nat := 5

/-- The names with each name that is not among them added at the end. -/
def addNames (names more : List String) : List String :=
  more.foldl (fun names name => if names.contains name then names else names ++ [name]) names

/-- The attributes that are known of a table: its keys, its definitions, and what a few items have.
Items that cannot be read are no failure. -/
def attributeNames (store : Store) (name : String) : Except Failure (List String) × Store :=
  match store.describe name with
  | (.error failure, store) => (.error failure, store)
  | (.ok table, store) =>
    let declared := addNames [] (table.keys.map (·.name) ++ table.attributes.map (·.name))
    match store.execute { statement := "SELECT * FROM " ++ Statement.quoteName name,
                          limit := some sampleSize } with
    | (.error _, store) => (.ok declared, store)
    | (.ok page, store) => (.ok (addNames declared (page.rows.flatMap Entries.names)), store)

end Store

/-- Whether the store can be reached, and what it said. -/
structure Health where
  isOk : Bool
  message : String
  deriving DecidableEq, Repr

namespace Health

/-- The status as it is shown. -/
def label (health : Health) : String := if health.isOk then "OK" else "ERROR"

/-- Tests the connection by describing a table. -/
def check (testTable : String) (store : Store) : Health × Store :=
  if Text.isBlankText testTable then
    (⟨false, "connection test table is not configured"⟩, store)
  else
    match store.describe testTable with
    | (.ok _, store) => (⟨true, "Successfully connects to DynamoDB"⟩, store)
    | (.error failure, store) => (⟨false, failure.text⟩, store)

def toJson (health : Health) : Json :=
  .object [
    ("status", .string (if health.isOk then "ok" else "error")),
    ("message", .string health.message)]

def read : Decoder Health := fun levels w => do
  let r ← Record.ofWritten? ["status", "message"] levels w
  let isOk ← r.required "status" (.word [("ok", true), ("error", false)])
  let message ← r.required "message" .text
  some { isOk, message }

end Health

end ItemStore
