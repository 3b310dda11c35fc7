import ItemStore.Proofs.Entries
import ItemStore.Proofs.Frame.Alignment
import ItemStore.Proofs.Query.QueryRun
import Mathlib.Data.List.Nodup

/-! # The answers of a batch

The queries of a batch share one store and are answered one after the other. Each of them has one
answer, at its place in the batch. A query that is refused before it reaches the store leaves the
store as it was, so that the queries after it find what they would have found without it.
-/
namespace ItemStore

theorem Query.name_of_run {query : Query} {name : String} {limits : Limits} {store : Store}
    {result : QueryResult} (h : (query.run name limits store).1 = .ok result) :
    result.frame.name = name := by
  obtain ⟨-, collected, -, hframe, -⟩ := exists_collected_of_run h
  exact Frame.name_of_ofRows hframe

namespace BatchQuery
variable {query bad : BatchQuery} {limits : Limits} {store : Store} {failure : Failure}

/-- What is refused without a look at the store: a text that is no query, and a query without a
statement. -/
inductive Refused (query : BatchQuery) : Failure → Prop
  | unreadable {failure : Failure} (unread : Query.ofBytes query.json = .error failure) :
    Refused query failure
  | blank {q : Query} (read : Query.ofBytes query.json = .ok q)
    (blank : Text.isBlankText q.statement = true) :
    Refused query (.validation "query text cannot be empty")

def FrameOrError (name : String) (answer : BatchAnswer) : Prop :=
  (∃ frame, answer = .ok [frame] ∧ frame.name = name) ∨ ∃ response, answer = .error response

theorem answer_of_refused (limits : Limits) (store : Store) (h : query.Refused failure) :
    query.answer limits store = (.error (.ofFailure failure), store) := by
  cases h with
  | unreadable unread => simp [answer, unread]
  | blank read blank => simp [answer, read, Query.run_of_blank blank]

theorem frameOrError_answer (query : BatchQuery) (limits : Limits) (store : Store) :
    FrameOrError query.name (query.answer limits store).1 := by
  cases hread : Query.ofBytes query.json with
  | error failure =>
    apply Or.inr
    simp [answer, hread]
  | ok q =>
    cases hrun : q.run query.name limits store with
    | mk result after =>
      cases result with
      | error failure =>
        apply Or.inr
        simp [answer, hread, hrun]
      | ok result =>
        apply Or.inl
        refine ⟨result.frame, ?_, ?_⟩
        · simp [answer, hread, hrun]
        · apply Query.name_of_run
          rw [hrun]

def answers (limits : Limits) : List BatchQuery → Store → Entries BatchAnswer × Store
  | [], store => ([], store)
  | query :: rest, store =>
    let following := answers limits rest (query.answer limits store).2
    ((query.name, (query.answer limits store).1) :: following.1, following.2)

theorem names_answers (limits : Limits) (queries : List BatchQuery) (store : Store) :
    (answers limits queries store).1.names = queries.map BatchQuery.name := by
  induction queries generalizing store with
  | nil => rfl
  | cons query rest ih => simp [answers, ih]

theorem length_answers (limits : Limits) (queries : List BatchQuery) (store : Store) :
    (answers limits queries store).1.length = queries.length := by
  have hnames := congrArg List.length (names_answers limits queries store)
  simpa [Entries.names] using hnames

/-- The later part of a batch is answered from the store that the first part leaves behind. -/
theorem answers_append (limits : Limits) (before later : List BatchQuery) (store : Store) :
    answers limits (before ++ later) store =
      ((answers limits before store).1 ++
          (answers limits later (answers limits before store).2).1,
        (answers limits later (answers limits before store).2).2) := by
  induction before generalizing store with
  | nil => rfl
  | cons query rest ih => simp [answers, ih]

theorem frameOrError_of_mem {queries : List BatchQuery} {name : String} {answer : BatchAnswer}
    (h : (name, answer) ∈ (answers limits queries store).1) : FrameOrError name answer := by
  induction queries generalizing store with
  | nil => simp [answers] at h
  | cons query rest ih =>
    rcases List.mem_cons.mp h with h | h
    · cases h
      exact query.frameOrError_answer limits store
    · exact ih h

/-- A refused query adds its own answer, and the queries after it are answered as without it. -/
theorem answers_insert (limits : Limits) (before later : List BatchQuery) (store : Store)
    (h : bad.Refused failure) :
    answers limits (before ++ bad :: later) store =
      ((answers limits (before ++ later) store).1.take before.length ++
          (bad.name, .error (.ofFailure failure)) ::
            (answers limits (before ++ later) store).1.drop before.length,
        (answers limits (before ++ later) store).2) := by
  have hlength := length_answers limits before store
  rw [answers_append, answers_append, answers, answer_of_refused limits _ h]
  simp [← hlength]

theorem answerAll_eq_ofPairs (limits : Limits) (queries : List BatchQuery) (store : Store) :
    answerAll limits queries store =
      (Entries.ofPairs (answers limits queries store).1, (answers limits queries store).2) := by
  induction queries using List.reverseRecOn with
  | nil => rfl
  | append_singleton queries query ih =>
    rw [answerAll] at ih
    rw [answers_append, answerAll, List.foldl_append, ih]
    simp only [answers, Entries.ofPairs_concat]
    rfl

/-- Where no name is repeated, no answer replaces another. -/
theorem answerAll_eq_answers {queries : List BatchQuery}
    (distinct : (queries.map BatchQuery.name).Nodup) (limits : Limits) (store : Store) :
    answerAll limits queries store = answers limits queries store := by
  have hnames : (answers limits queries store).1.names.Nodup := by rwa [names_answers]
  rw [answerAll_eq_ofPairs, Entries.ofPairs_of_nodup hnames]

/-- Every query of a batch has one answer, at its place: one frame with the name of the query, or an
error. A query that is refused, wherever it stands in the batch, has its own error and changes
nothing else: the other answers are the same, and so is the store with all its calls. -/
theorem answerAll_isolates {queries : List BatchQuery}
    (distinct : (queries.map BatchQuery.name).Nodup) (limits : Limits) (store : Store) :
    (answerAll limits queries store).1.names = queries.map BatchQuery.name ∧
    (∀ name answer, (name, answer) ∈ (answerAll limits queries store).1 → FrameOrError name answer) ∧
    ∀ before later bad failure, queries = before ++ later →
      bad.name ∉ queries.map BatchQuery.name → bad.Refused failure →
      answerAll limits (before ++ bad :: later) store =
        ((answerAll limits queries store).1.take before.length ++
            (bad.name, .error (.ofFailure failure)) ::
              (answerAll limits queries store).1.drop before.length,
          (answerAll limits queries store).2) := by
  rw [answerAll_eq_answers distinct]
  refine ⟨names_answers limits queries store, fun name answer => frameOrError_of_mem, ?_⟩
  intro before later bad failure hqueries hfresh hrefused
  subst hqueries
  have hdistinct : ((before ++ bad :: later).map BatchQuery.name).Nodup := by
    rw [List.map_append, List.map_cons, List.nodup_middle, ← List.map_append]
    exact List.nodup_cons.mpr ⟨hfresh, distinct⟩
  rw [answerAll_eq_answers hdistinct]
  exact answers_insert limits before later store hrefused

/-- An empty text between two queries of which the first one takes the only page with a row. -/
theorem answerAll_isolates_of_empty_text :
    let store : Store := { answers := [.ok { rows := [[("k", .string "a")]] }] }
    let json := "\x7b\"queryText\":\"SELECT * FROM T\"\x7d".toUTF8.toList
    let answered := answerAll {} [⟨"A", json⟩, ⟨"B", json⟩] store
    answerAll {} [⟨"A", json⟩, ⟨"X", []⟩, ⟨"B", json⟩] store =
        (answered.1.take 1 ++
            ("X", .error ⟨.badRequest, "json unmarshal: no query"⟩) :: answered.1.drop 1,
          answered.2) ∧
      answered.1.names = ["A", "B"] := by
  intro store json answered
  have hrefused : Refused ⟨"X", []⟩ (.validation "json unmarshal: no query") := by
    apply Refused.unreadable
    simp only [Query.ofBytes, Text.symbols_nil]
    rfl
  have hdistinct : (List.map BatchQuery.name [⟨"A", json⟩, ⟨"B", json⟩]).Nodup := by decide
  obtain ⟨hnames, -, hinsert⟩ := answerAll_isolates hdistinct {} store
  exact ⟨hinsert [⟨"A", json⟩] [⟨"B", json⟩] ⟨"X", []⟩ _ rfl (by decide) hrefused, hnames⟩

end BatchQuery

end ItemStore
