import ItemStore.Query.Statement
import ItemStore.Store

/-! # Order by the store

The store can order rows by the sort key within one partition. The order is asked for only where the
statement reads a single partition of a table or index that has the sort key. In every other case
the statement stays as it is, and a field is named by which the rows can be sorted afterwards.
-/
namespace ItemStore

structure NativeOrder where
  statement : String
  /-- The store returns the rows in order. -/
  applied : Bool := false
  /-- The field to sort by where the store does not. -/
  fallback : Option String := none
  deriving DecidableEq, Repr

namespace NativeOrder

/-- The sort key by which a statement can be ordered, given the keys of what it reads. A key that
the caller asks for has to be the sort key, ASCII case aside. -/
def orderableKey? (statement : String) (requested : Option String) (schema : KeySchema) :
    Option String := do
  let sortKey ← schema.sortKey.filter (· ≠ "")
  if requested.all (Text.equalIgnoringCase · sortKey) then
    let partitionKey ← schema.partitionKey.filter (· ≠ "")
    if Statement.pinsPartition statement partitionKey then some sortKey else none
  else none

/-- The plan once the keys are known. -/
def ofSchema (query : Query) (direction : Direction) (schema : KeySchema) : NativeOrder :=
  let requested := query.requestedSortKey
  match orderableKey? query.statement requested schema with
  | none => { statement := query.statement, fallback := requested.or schema.sortKey }
  | some sortKey =>
    match Statement.withOrder? query.statement sortKey direction with
    | some statement => { statement, applied := true, fallback := some sortKey }
    | none => { statement := query.statement, fallback := requested.or (some sortKey) }

/-- The plan for a query. The table is described only if the answer matters, and a table that cannot
be described is no failure. -/
def plan (query : Query) (store : Store) : NativeOrder × Store :=
  let requested := query.requestedSortKey
  match query.scanForward with
  | none => ({ statement := query.statement }, store)
  | some forward =>
    if Statement.hasOrder query.statement then
      ({ statement := query.statement, applied := true, fallback := requested }, store)
    else
      let declined : NativeOrder := { statement := query.statement, fallback := requested }
      match Statement.source? query.statement with
      | none => (declined, store)
      | some source =>
        match store.describe source.table with
        | (.error _, store) => (declined, store)
        | (.ok table, store) =>
          match table.keySchema source.index with
          | .error _ => (declined, store)
          | .ok schema => (ofSchema query (.ofForward forward) schema, store)

theorem plan_of_scanForward_eq_none {query : Query} (store : Store) (h : query.scanForward = none) :
    plan query store = ({ statement := query.statement }, store) := by
  simp [plan, h]

end NativeOrder

end ItemStore
