import ItemStore.Proofs.Query.BatchAnswers
import ItemStore.Proofs.Query.CollectionOutcome

/-! # The status of a failure in context

A context before the message of a failure leaves the status as it is, except that a document that
cannot be read or written becomes a value that cannot be read, for which the request is to blame.
So the status of a query whose first page cannot be fetched is that of the store's own failure, with
the same exception.
-/
namespace ItemStore

namespace Failure

def isSerialization : Failure → Bool
  | .serialization _ => true
  | _ => false

def inContexts (failure : Failure) (contexts : List String) : Failure :=
  contexts.foldl inContext failure

theorem isSerialization_inContext (failure : Failure) (context : String) :
    (failure.inContext context).isSerialization = false := by
  cases failure <;> rfl

theorem status_inContext (failure : Failure) (context : String) :
    (failure.inContext context).status =
      if failure.isSerialization then .badRequest else failure.status := by
  cases failure <;> rfl

/-- Only the first context can change a status. -/
theorem status_inContexts (failure : Failure) (contexts : List String) :
    (failure.inContexts contexts).status =
      if failure.isSerialization ∧ contexts ≠ [] then .badRequest else failure.status := by
  induction contexts generalizing failure with
  | nil => simp [inContexts]
  | cons context rest ih =>
    have hrest := ih (failure.inContext context)
    rw [isSerialization_inContext, status_inContext] at hrest
    simpa [inContexts] using hrest

end Failure

/-- A fetch that fails before there are rows fails with the store's failure in context. A
cancellation has none, but neither would a context show in it. -/
theorem Interruption.failure_fetch (failure : Failure) :
    (fetch failure).failure = failure.inContext "executes statement" := by
  cases failure <;> rfl

section FirstFetch
variable {limits : Limits} {store : Store} {failure : Failure}

theorem Collection.collect_of_failed_fetch {statement : String} {limit : Option Nat}
    (asked : (collect statement limit limits store).2.requests ≠ store.requests)
    (failed : store.answer 0 = .error failure) :
    (collect statement limit limits store).1 = .error (failure.inContext "executes statement") := by
  obtain ⟨m, hstore, hallowed, -⟩ := exists_requestsUpTo_collect statement limit limits store
  have hm : 0 < m := by
    rcases Nat.eq_zero_or_pos m with rfl | hm
    · exact absurd (congrArg Store.requests hstore) asked
    · exact hm
  have hreached : Reaches limits limit store 0 := fun j hj => absurd hj (Nat.not_lt_zero j)
  rw [collect_of_interrupts statement hreached (interrupts_fetch (hallowed 0 hm).1 failed),
    outcome_of_rows_eq_nil rfl, Interruption.failure_fetch]

theorem Query.run_of_failed_fetch {query : Query} {name : String}
    (asked : (query.run name limits store).2.requests ≠ store.requests)
    (failed : store.answer 0 = .error failure) :
    (query.run name limits store).1 = .error (failure.inContext "executes statement") := by
  cases hblank : Text.isBlankText query.statement with
  | true =>
    rw [run_of_blank hblank] at asked
    exact absurd rfl asked
  | false =>
    rw [run_of_not_blank hblank] at asked ⊢
    obtain ⟨names, -, hplanned⟩ := NativeOrder.plan_store query store
    have hfailed : (NativeOrder.plan query store).2.answer 0 = .error failure := by
      rw [hplanned]
      exact failed
    have hasked : (query.collection limits store).2.requests ≠
        (NativeOrder.plan query store).2.requests := by
      rw [hplanned]
      exact asked
    dsimp only
    rw [collection, Collection.collect_of_failed_fetch hasked hfailed]
    rfl

namespace BatchQuery
variable {query : BatchQuery}

theorem answer_of_read {q : Query} (limits : Limits) (store : Store)
    (read : Query.ofBytes query.json = .ok q) :
    query.answer limits store =
      (((q.run query.name limits store).1.mapError ErrorResponse.ofFailure).map fun result =>
        [result.frame], (q.run query.name limits store).2) := by
  rw [answer, read]
  dsimp only
  obtain ⟨_ | _, _⟩ := q.run query.name limits store <;> rfl

theorem answer_of_failed_fetch (asked : (query.answer limits store).2.requests ≠ store.requests)
    (failed : store.answer 0 = .error failure) :
    (query.answer limits store).1 =
      .error (.ofFailure (failure.inContext "executes statement")) := by
  cases hread : Query.ofBytes query.json with
  | error refusal =>
    rw [answer_of_refused limits store (.unreadable hread)] at asked
    exact absurd rfl asked
  | ok q =>
    rw [answer_of_read limits store hread] at asked ⊢
    rw [Query.run_of_failed_fetch asked failed]
    rfl

/-! ### In a batch -/

theorem answerAll_concat (limits : Limits) (queries : List BatchQuery) (query : BatchQuery)
    (store : Store) :
    answerAll limits (queries ++ [query]) store =
      let reached := answerAll limits queries store
      (reached.1.put query.name (query.answer limits reached.2).1,
        (query.answer limits reached.2).2) := by
  rw [answerAll, List.foldl_append]
  rfl

theorem find?_answerAll (limits : Limits) (before later : List BatchQuery) (query : BatchQuery)
    (store : Store) (fresh : query.name ∉ later.map BatchQuery.name) :
    (answerAll limits (before ++ query :: later) store).1.find? query.name =
      some (query.answer limits (answerAll limits before store).2).1 := by
  induction later using List.reverseRecOn with
  | nil =>
    rw [answerAll_concat, Entries.find?_put, if_pos rfl]
  | append_singleton later last ih =>
    rw [List.map_append, List.mem_append, not_or] at fresh
    have hlast : last.name ≠ query.name := by
      intro heq
      exact fresh.2 (by simp [heq])
    rw [← List.cons_append, ← List.append_assoc, answerAll_concat, Entries.find?_put, if_neg hlast]
    exact ih fresh.1

/-- A context keeps the status of a failure, unless the failure is a document that cannot be read or
written: that one becomes a bad request with the first context. So it is with the answer to a query
whose first page cannot be fetched, wherever the query stands in a batch: its status is that of the
store's failure, with the same exception. -/
theorem answerAll_status_of_failed_fetch (failure : Failure) :
    (∀ contexts, (failure.inContexts contexts).status =
      if failure.isSerialization ∧ contexts ≠ [] then .badRequest else failure.status) ∧
    ∀ (limits : Limits) (before later : List BatchQuery) (query : BatchQuery) (store : Store),
      let reached := (answerAll limits before store).2
      query.name ∉ later.map BatchQuery.name →
      (query.answer limits reached).2.requests ≠ reached.requests →
      reached.answer 0 = .error failure →
      (answerAll limits (before ++ query :: later) store).1.find? query.name =
        some (.error {
          status := if failure.isSerialization then .badRequest else failure.status
          message := (failure.inContext "executes statement").text }) := by
  refine ⟨failure.status_inContexts, ?_⟩
  intro limits before later query store reached fresh asked failed
  rw [find?_answerAll limits before later query store fresh, answer_of_failed_fetch asked failed,
    ErrorResponse.ofFailure, Failure.status_inContext]

/-- The second of three queries, the first of which has no text, finds a store that refuses it. -/
theorem answerAll_status_of_refusal :
    let json := "\x7b\"queryText\":\"SELECT * FROM T\"\x7d".toUTF8.toList
    let store : Store := { answers := [.error (.forbidden "no access")] }
    let queries : List BatchQuery := [⟨"A", []⟩, ⟨"B", json⟩, ⟨"C", json⟩]
    ((Failure.forbidden "no access").inContexts ["a", "b"]).status = .forbidden ∧
      (answerAll {} queries store).1.find? "B" = some (.error ⟨.forbidden, "no access"⟩) := by
  intro json store queries
  obtain ⟨hcontexts, hfetch⟩ := answerAll_status_of_failed_fetch (.forbidden "no access")
  have hbefore : (answerAll {} [⟨"A", []⟩] store).2 = store := by
    simp only [answerAll, List.foldl_cons, List.foldl_nil, answer, Query.ofBytes, Text.symbols_nil]
    rfl
  have hasked : (answer ⟨"B", json⟩ {} store).2.requests ≠ store.requests := by
    intro h
    exact absurd (congrArg List.length h) (by decide +kernel)
  refine ⟨hcontexts _, ?_⟩
  exact hfetch {} [⟨"A", []⟩] [⟨"C", json⟩] ⟨"B", json⟩ store (by simp) (hbefore.symm ▸ hasked)
    (hbefore.symm ▸ rfl)

/-- A document that the store cannot read is an internal failure, but reported as a bad request. -/
theorem answerAll_loses_status :
    let json := "\x7b\"queryText\":\"SELECT * FROM T\"\x7d".toUTF8.toList
    let failure : Failure := .serialization "trailing characters"
    let store : Store := { answers := [.error failure] }
    failure.status = .internalError ∧ (failure.inContexts ["a"]).status = .badRequest ∧
      (answerAll {} [⟨"A", json⟩] store).1.find? "A" =
        some (.error ⟨.badRequest, "executes statement: trailing characters"⟩) := by
  intro json failure store
  refine ⟨rfl, rfl, ?_⟩
  have hasked : (answer ⟨"A", json⟩ {} store).2.requests ≠ store.requests := by
    intro h
    exact absurd (congrArg List.length h) (by decide +kernel)
  have hfailed : store.answer 0 = .error failure := rfl
  rw [← List.nil_append [_], find?_answerAll {} [] [] ⟨"A", json⟩ store (by simp)]
  exact congrArg some (answer_of_failed_fetch hasked hfailed)

end BatchQuery

end FirstFetch

end ItemStore
