import ItemStore.Table
import ItemStore.Value.Basic

/-! # The store as its clients see it

A store answers statements page by page, describes tables and lists their names. Here it is given
by the answers it still has to give, so that every run is a function of them; it notes each call,
and with each statement its clock moves on.
-/
namespace ItemStore
open Number (Binary64)
open Json (Decoder Record)

/-- One statement as it is sent. -/
structure Request where
  statement : String
  parameters : List Value := []
  /-- How many items the store evaluates for a page. -/
  limit : Option Nat := none
  /-- Where the page starts; the first page has no token. -/
  token : Option String := none
  /-- Asks for the capacity that the statement consumes. -/
  reportCapacity : Bool := false
  deriving Repr

/-- The capacity units that the store reports for one statement. -/
structure Capacity where
  table : Option String := none
  units : Option Binary64 := none
  readUnits : Option Binary64 := none
  writeUnits : Option Binary64 := none
  deriving DecidableEq, Repr

structure Page where
  rows : List Row := []
  token : Option String := none
  capacity : Option Capacity := none
  deriving Repr

/-- The token of the next page; an empty token stands for none. -/
def Page.continuation (page : Page) : Option String := page.token.filter (· ≠ "")

/-- A call for the names of the tables that follow `start`. -/
structure Listing where
  start : Option String := none
  limit : Option Nat := none
  deriving DecidableEq, Repr

structure NamePage where
  names : List String := []
  last : Option String := none
  deriving DecidableEq, Repr

structure Store where
  /-- The answers to the statements to come; after them every page is empty. -/
  answers : List (Except Failure Page) := []
  tables : List Table := []
  /-- What every description fails with, if it does. -/
  describeFailure : Option Failure := none
  /-- The answers to the listings to come; after them a page is empty and the last one. -/
  namePages : List (Except Failure NamePage) := []
  /-- How long each statement takes, in nanoseconds, the statements counted from one. -/
  latency : Nat → Nat := fun _ => 0
  /-- The time since the start, in nanoseconds. -/
  clock : Nat := 0
  cancelled : Bool := false
  /-- The statement, counted from one, during which the caller cancels. -/
  cancelDuring : Option Nat := none
  requests : List Request := []
  described : List String := []
  listings : List Listing := []

namespace Store

/-- Sends a statement. -/
def execute (store : Store) (request : Request) : Except Failure Page × Store :=
  let after := { store with
    answers := store.answers.tail
    clock := store.clock + store.latency (store.requests.length + 1)
    requests := store.requests ++ [request]
    cancelled := store.cancelled || store.cancelDuring == some (store.requests.length + 1) }
  (store.answers.head?.getD (.ok {}), after)

/-- Asks for the description of a table. -/
def describe (store : Store) (name : String) : Except Failure Table × Store :=
  let answer := match store.describeFailure with
    | some failure => .error failure
    | none =>
      match store.tables.find? (·.name = name) with
      | some table => .ok table
      | none => .error (.remote ("table " ++ name ++ " not found"))
  (answer, { store with described := store.described ++ [name] })

/-- Asks for a page of table names. -/
def list (store : Store) (listing : Listing) : Except Failure NamePage × Store :=
  (store.namePages.head?.getD (.ok {}),
    { store with namePages := store.namePages.tail, listings := store.listings ++ [listing] })

@[simp] theorem requests_execute (store : Store) (request : Request) :
    (store.execute request).2.requests = store.requests ++ [request] := rfl

@[simp] theorem described_describe (store : Store) (name : String) :
    (store.describe name).2.described = store.described ++ [name] := rfl

@[simp] theorem listings_list (store : Store) (listing : Listing) :
    (store.list listing).2.listings = store.listings ++ [listing] := rfl

end Store

namespace Capacity

def optionalFloat (x : Option Binary64) : Json :=
  match x with
  | some x => .ofFloat x
  | none => .null

def optionalText (s : Option String) : Json :=
  match s with
  | some s => .string s
  | none => .null

def toJson (c : Capacity) : Json :=
  .object [
    ("tableName", optionalText c.table),
    ("capacityUnits", optionalFloat c.units),
    ("readCapacityUnits", optionalFloat c.readUnits),
    ("writeCapacityUnits", optionalFloat c.writeUnits)]

def read : Decoder Capacity := fun levels w => do
  let r ← Record.ofWritten?
    ["tableName", "capacityUnits", "readCapacityUnits", "writeCapacityUnits"] levels w
  let table ← r.nullable "tableName" .text
  let units ← r.nullable "capacityUnits" .float
  let readUnits ← r.nullable "readCapacityUnits" .float
  let writeUnits ← r.nullable "writeCapacityUnits" .float
  some { table, units, readUnits, writeUnits }

end Capacity

end ItemStore
