import ItemStore.Proofs.Query.CollectionRun
import ItemStore.Proofs.Query.OrderPlan
import ItemStore.Query.Service

/-! # What running a query comes to

A query that is not blank is planned, its rows are collected under the planned statement, and its
result is the frame of those rows, arranged and cut to the limit. Planning leaves the answers of the
store as they are, so what is collected is what the store has to answer.
-/
namespace ItemStore

namespace SortOrder

def arrange : Option SortOrder → List Row → List Row
  | some sort, rows => Row.sort rows sort.field sort.direction
  | none, rows => rows

theorem arrange_perm (sort : Option SortOrder) (rows : List Row) : (arrange sort rows).Perm rows := by
  cases sort with
  | none => exact .refl rows
  | some sort => exact Row.sort_perm rows sort.field sort.direction

end SortOrder

namespace Query
variable {query : Query} {name : String} {limits : Limits} {store : Store}

/-- The sort for the rows that a query collected; no rows need none. -/
def sortFor (query : Query) (plan : NativeOrder) (rows : List Row) : Option SortOrder :=
  if rows.isEmpty then none else SortOrder.resolve query plan rows.head?

def shownRows (query : Query) (plan : NativeOrder) (rows : List Row) : List Row :=
  Row.upTo (SortOrder.arrange (query.sortFor plan rows) rows) query.limit

/-- The collection that a query makes: that of the planned statement, after the planning. -/
def collection (query : Query) (limits : Limits) (store : Store) : Except Failure Collection × Store :=
  Collection.collect (NativeOrder.plan query store).1.statement query.limit limits
    (NativeOrder.plan query store).2

theorem shownRows_nil (query : Query) (plan : NativeOrder) : query.shownRows plan [] = [] := by
  have hrows : SortOrder.arrange (query.sortFor plan []) [] = [] :=
    List.perm_nil.mp (SortOrder.arrange_perm _ _)
  rw [shownRows, hrows]
  cases query.limit <;> simp [Row.upTo]

/-- All that a result says, once the frame is there. -/
theorem resultOf_eq (query : Query) (name : String) (plan : NativeOrder) (collected : Collection) :
    query.resultOf name plan collected =
      (Frame.ofRows name (query.shownRows plan collected.rows) query.formats).map fun frame =>
        { frame, pages := collected.pages, stop := collected.stop, nativeOrder := plan.applied,
          sort := query.sortFor plan collected.rows } := by
  unfold resultOf
  by_cases hrows : collected.rows = []
  · rw [hrows, shownRows_nil]
    rfl
  · have hempty : collected.rows.isEmpty = false := by simpa using hrows
    have hmap (x : Except Failure Frame) (f : Frame → QueryResult) :
        (x >>= fun frame => .ok (f frame)) = x.map f := by
      cases x <;> rfl
    simp only [hempty, Bool.false_eq_true, if_false, shownRows, sortFor]
    cases SortOrder.resolve query plan collected.rows.head? with
    | none => exact hmap _ _
    | some sort => exact hmap _ _

theorem run_of_blank (h : Text.isBlankText query.statement = true) :
    query.run name limits store = (.error (.validation "query text cannot be empty"), store) := by
  rw [run, if_pos h]

theorem run_of_not_blank (h : Text.isBlankText query.statement = false) :
    query.run name limits store =
      ((query.collection limits store).1 >>= query.resultOf name (NativeOrder.plan query store).1,
        (query.collection limits store).2) := by
  rw [run, h, collection]
  obtain ⟨plan, planned⟩ := NativeOrder.plan query store
  dsimp only
  obtain ⟨_ | collected, after⟩ := Collection.collect plan.statement query.limit limits planned <;> rfl

theorem run_of_collected (h : Text.isBlankText query.statement = false) {collected : Collection}
    (hcollected : (query.collection limits store).1 = .ok collected) :
    (query.run name limits store).1 =
      (Frame.ofRows name (query.shownRows (NativeOrder.plan query store).1 collected.rows)
        query.formats).map fun frame =>
          { frame, pages := collected.pages, stop := collected.stop,
            nativeOrder := (NativeOrder.plan query store).1.applied,
            sort := query.sortFor (NativeOrder.plan query store).1 collected.rows } := by
  rw [run_of_not_blank h, hcollected]
  exact resultOf_eq query name _ collected

theorem exists_collected_of_run {result : QueryResult}
    (h : (query.run name limits store).1 = .ok result) :
    Text.isBlankText query.statement = false ∧
      ∃ collected, (query.collection limits store).1 = .ok collected ∧
        Frame.ofRows name (query.shownRows (NativeOrder.plan query store).1 collected.rows)
          query.formats = .ok result.frame ∧
        result.stop = collected.stop ∧
        result.nativeOrder = (NativeOrder.plan query store).1.applied ∧
        result.sort = query.sortFor (NativeOrder.plan query store).1 collected.rows := by
  cases hblank : Text.isBlankText query.statement with
  | true =>
    rw [run_of_blank hblank] at h
    cases h
  | false =>
    cases hcollected : (query.collection limits store).1 with
    | error failure =>
      rw [run_of_not_blank hblank, hcollected] at h
      cases h
    | ok collected =>
      rw [run_of_collected hblank hcollected] at h
      obtain ⟨frame, hframe, rfl⟩ := Failure.map_eq_ok_iff.mp h
      exact ⟨rfl, collected, rfl, hframe, rfl, rfl, rfl⟩

theorem exists_requestsUpTo_collection (query : Query) (limits : Limits) (store : Store) :
    ∃ m, (query.collection limits store).2.requests = store.requests ++
        Collection.requestsUpTo (NativeOrder.plan query store).1.statement query.limit store m ∧
      ∀ collected, (query.collection limits store).1 = .ok collected →
        collected.rows = store.rowsUpTo m := by
  obtain ⟨names, -, hplanned⟩ := NativeOrder.plan_store query store
  obtain ⟨m, hafter, -, hrows⟩ := Collection.exists_requestsUpTo_collect
    (NativeOrder.plan query store).1.statement query.limit limits (NativeOrder.plan query store).2
  refine ⟨m, ?_, fun collected hcollected => ?_⟩
  · rw [collection, hafter, Store.requests_send, hplanned]
    rfl
  · rw [(hrows collected hcollected).1, hplanned]
    rfl

end Query

end ItemStore
