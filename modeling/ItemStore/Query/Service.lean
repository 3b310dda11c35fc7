import ItemStore.Frame.Builder
import ItemStore.Query.Collection
import ItemStore.Query.Sort

/-! # Running queries

A query is planned, its rows are collected, sorted and cut to the limit, and a frame is built of
them. The queries of a batch are run one after the other, and one that fails leaves the others
alone.
-/
namespace ItemStore

structure QueryResult where
  frame : Frame
  pages : Nat
  stop : StopReason
  /-- The store returned the rows in order. -/
  nativeOrder : Bool
  sort : Option SortOrder := none
  deriving Repr

namespace Query

/-- The result of a query whose rows are there. -/
def resultOf (query : Query) (name : String) (plan : NativeOrder) (collected : Collection) :
    Except Failure QueryResult :=
  let result : QueryResult :=
    { frame := { name }, pages := collected.pages, stop := collected.stop,
      nativeOrder := plan.applied }
  if collected.rows.isEmpty then .ok result
  else do
    let sort := SortOrder.resolve query plan collected.rows.head?
    let sorted := match sort with
      | some s => Row.sort collected.rows s.field s.direction
      | none => collected.rows
    let frame ← Frame.ofRows name (Row.upTo sorted query.limit) query.formats
    .ok { result with frame, sort }

/-- Runs a query; the frame takes the given name. -/
def run (query : Query) (name : String) (limits : Limits) (store : Store) :
    Except Failure QueryResult × Store :=
  if Text.isBlankText query.statement then
    (.error (.validation "query text cannot be empty"), store)
  else
    let (plan, store) := NativeOrder.plan query store
    match Collection.collect plan.statement query.limit limits store with
    | (.error failure, store) => (.error failure, store)
    | (.ok collected, store) => (query.resultOf name plan collected, store)

end Query

/-- One query of a batch, still as its JSON text. -/
structure BatchQuery where
  name : String
  json : List UInt8
  deriving Repr

abbrev BatchAnswer := Except ErrorResponse (List Frame)

namespace BatchQuery

/-- Answers one query of a batch. -/
def answer (query : BatchQuery) (limits : Limits) (store : Store) : BatchAnswer × Store :=
  match Query.ofBytes query.json with
  | .error failure => (.error (.ofFailure failure), store)
  | .ok q =>
    match q.run query.name limits store with
    | (.error failure, store) => (.error (.ofFailure failure), store)
    | (.ok result, store) => (.ok [result.frame], store)

/-- The answers by name. A query that repeats a name replaces the answer at the name's place. -/
def answerAll (limits : Limits) (queries : List BatchQuery) (store : Store) :
    Entries BatchAnswer × Store :=
  queries.foldl (fun (answers, store) query =>
    let (answer, store) := query.answer limits store
    (answers.put query.name answer, store)) ([], store)

end BatchQuery

end ItemStore
