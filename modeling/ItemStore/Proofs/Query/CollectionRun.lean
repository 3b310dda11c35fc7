import ItemStore.Proofs.Store.Statements
import ItemStore.Query.Collection

/-! # The run of a collection

A collection asks for page after page until one of its bounds is met. What it has come to before a
page depends on the answers to the pages before it and on nothing else, so a run is told by the
number of pages that it reaches and by the one thing that ends it there.
-/
namespace ItemStore

/-- The reasons that let a collection ask for its `k`-th page, counted from zero. -/
structure Limits.Allows (limits : Limits) (store : Store) (k : Nat) : Prop where
  notCancelled : store.cancelledAfter k = false
  inTime : store.elapsed k ≤ limits.budget
  pagesLeft : k < limits.maxPages

/-- After `k` pages the rows are still too few, and the last page leads to a further one. -/
structure Limits.Wants (limits : Limits) (limit : Option Nat) (store : Store) (k : Nat) : Prop where
  belowCeiling : (store.rowsUpTo k).length < limits.maxItems
  belowLimit : ∀ n, limit = some n → (store.rowsUpTo k).length < n
  followed : store.tokenAt k ≠ none

/-- What interrupts a collection at its `k`-th page. Before the page a cancellation counts first,
then the time, then the number of pages; after them comes the page itself. -/
inductive Limits.Interrupts (limits : Limits) (store : Store) (k : Nat) : Interruption → Prop
  | cancelled (seen : store.cancelledAfter k = true) :
    Interrupts limits store k ⟨.cancelled, .cancelled "context canceled"⟩
  | deadline (notCancelled : store.cancelledAfter k = false) (late : limits.budget < store.elapsed k) :
    Interrupts limits store k ⟨.deadlineExceeded, .timeout ("query exceeded maximum duration of " ++
      String.ofList ((Interruption.secondsOf limits.maxDurationMs).text .plain) ++ "s")⟩
  | pageCeiling (notCancelled : store.cancelledAfter k = false)
    (inTime : store.elapsed k ≤ limits.budget) (ceiling : limits.maxPages ≤ k) :
    Interrupts limits store k ⟨.pageCeiling, .limitExceeded
      ("query exceeded maximum page limit of " ++ String.ofList (Number.natText limits.maxPages))⟩
  | cancelledFetch (allowed : limits.Allows store k) {failure : Failure}
    (failed : store.answer k = .error failure) (cancelled : failure.isCancelled = true) :
    Interrupts limits store k ⟨.cancelled, failure⟩
  | failedFetch (allowed : limits.Allows store k) {failure : Failure}
    (failed : store.answer k = .error failure) (notCancelled : failure.isCancelled = false) :
    Interrupts limits store k ⟨.fetchFailed failure.text, failure.inContext "executes statement"⟩

namespace Collection

/-- The collection comes to ask for its `k`-th page: every page before it was allowed, came in and
was not enough. -/
def Reaches (limits : Limits) (limit : Option Nat) (store : Store) (k : Nat) : Prop :=
  ∀ j < k, limits.Allows store j ∧ limits.Wants limit store (j + 1)

def requestAt (statement : String) (limit : Option Nat) (store : Store) (k : Nat) : Request :=
  { statement, limit, token := store.tokenAt k }

def requestsUpTo (statement : String) (limit : Option Nat) (store : Store) (k : Nat) : List Request :=
  (List.range k).map (requestAt statement limit store)

def progressAt (store : Store) (k : Nat) : Progress := ⟨store.rowsUpTo k, k, store.tokenAt k⟩

/-- How a collection that reached its `k`-th page ends there. -/
inductive Ends (statement : String) (limit : Option Nat) (limits : Limits) (store : Store) (k : Nat) :
    Except Failure Collection × Store → Prop
  | before {i : Interruption} (interrupted : limits.Interrupts store k i)
    (notAllowed : ¬ limits.Allows store k) :
    Ends statement limit limits store k
      (i.outcome (progressAt store k), store.send (requestsUpTo statement limit store k))
  | failed {i : Interruption} (interrupted : limits.Interrupts store k i)
    (allowed : limits.Allows store k) {failure : Failure} (answer : store.answer k = .error failure) :
    Ends statement limit limits store k
      (i.outcome (progressAt store k), store.send (requestsUpTo statement limit store (k + 1)))
  | done (allowed : limits.Allows store k) {page : Page} (answer : store.answer k = .ok page)
    {stop : StopReason} (stopped : (progressAt store (k + 1)).stop? limits limit = some stop) :
    Ends statement limit limits store k
      (.ok ⟨store.rowsUpTo (k + 1), k + 1, stop⟩,
        store.send (requestsUpTo statement limit store (k + 1)))

section Steps
variable (statement : String) (limit : Option Nat) (limits : Limits) (store : Store)

@[simp] theorem length_requestsUpTo (k : Nat) :
    (requestsUpTo statement limit store k).length = k := by
  simp [requestsUpTo]

theorem requestsUpTo_succ (k : Nat) :
    requestsUpTo statement limit store (k + 1) =
      requestsUpTo statement limit store k ++ [requestAt statement limit store k] := by
  simp [requestsUpTo, List.range_succ]

theorem execute_requestAt (k : Nat) :
    (store.send (requestsUpTo statement limit store k)).execute
        { statement, limit, token := (progressAt store k).token } =
      (store.answer k, store.send (requestsUpTo statement limit store (k + 1))) := by
  rw [requestsUpTo_succ, Store.execute_send, length_requestsUpTo]
  rfl

variable {store}

theorem progressAt_add {k : Nat} {page : Page} (h : store.answer k = .ok page) :
    (progressAt store k).add page = progressAt store (k + 1) := by
  rw [progressAt, progressAt, Progress.add, Store.rowsUpTo_succ_of_ok h, Store.tokenAt_succ_of_ok h]

variable {limits limit}

/-- The reason to stop after a page: too many rows, enough of them, or no further page, in that
order. -/
theorem stop?_progressAt {k : Nat} :
    (progressAt store k).stop? limits limit =
      if limits.maxItems ≤ (store.rowsUpTo k).length then some .itemCeiling
      else if ∃ n, limit = some n ∧ n ≤ (store.rowsUpTo k).length then some .limitReached
      else if store.tokenAt k = none then some .exhausted
      else none := by
  unfold Progress.stop?
  cases limit with
  | none => simp [progressAt]
  | some n => by_cases hn : n ≤ (store.rowsUpTo k).length <;> simp [progressAt, hn]

theorem stop?_progressAt_eq_none_iff {k : Nat} :
    (progressAt store k).stop? limits limit = none ↔ limits.Wants limit store k := by
  rw [stop?_progressAt]
  constructor
  · intro h
    split at h
    · cases h
    · next hceiling =>
      split at h
      · cases h
      · next hlimit =>
        split at h
        · cases h
        · next htoken =>
          exact ⟨Nat.lt_of_not_le hceiling,
            fun n hn => Nat.lt_of_not_le fun hle => hlimit ⟨n, hn, hle⟩, htoken⟩
  · intro h
    rw [if_neg (Nat.not_le.mpr h.belowCeiling), if_neg, if_neg h.followed]
    rintro ⟨n, hn, hle⟩
    exact Nat.not_le.mpr (h.belowLimit n hn) hle

theorem interruption?_send {k : Nat} :
    limits.interruption? store.clock (store.send (requestsUpTo statement limit store k)) =
      if store.cancelledAfter k then some .cancelled
      else if limits.budget < store.elapsed k then some (.deadline limits)
      else none := by
  have hsent := store.sent_send (requestsUpTo statement limit store k)
  rw [Limits.interruption?, hsent.cancelled, hsent.clock, length_requestsUpTo,
    Nat.add_sub_cancel_left]

theorem interrupts_of_interruption? {k : Nat} {i : Interruption}
    (h : limits.interruption? store.clock (store.send (requestsUpTo statement limit store k)) = some i) :
    limits.Interrupts store k i ∧ ¬ limits.Allows store k := by
  rw [interruption?_send] at h
  split at h
  · next hcancelled =>
    cases h
    exact ⟨.cancelled hcancelled, fun hallowed => by simp [hallowed.notCancelled] at hcancelled⟩
  · next hcancelled =>
    split at h
    · next hlate =>
      cases h
      exact ⟨.deadline (Bool.not_eq_true _ ▸ hcancelled) hlate,
        fun hallowed => Nat.not_lt.mpr hallowed.inTime hlate⟩
    · cases h

theorem running_of_interruption?_eq_none {k : Nat}
    (h : limits.interruption? store.clock (store.send (requestsUpTo statement limit store k)) = none) :
    store.cancelledAfter k = false ∧ store.elapsed k ≤ limits.budget := by
  rw [interruption?_send] at h
  split at h
  · cases h
  · next hcancelled =>
    split at h
    · cases h
    · next hlate => exact ⟨by simpa using hcancelled, Nat.not_lt.mp hlate⟩

theorem interrupts_fetch {k : Nat} {failure : Failure} (allowed : limits.Allows store k)
    (h : store.answer k = .error failure) : limits.Interrupts store k (.fetch failure) := by
  unfold Interruption.fetch
  split
  · next hcancelled => exact .cancelledFetch allowed h hcancelled
  · next hcancelled => exact .failedFetch allowed h (by simpa using hcancelled)

/-- A collection that comes to a page goes on until something ends it. -/
theorem exists_ends_resume {left k : Nat} (hk : k + left = limits.maxPages)
    (reached : Reaches limits limit store k) :
    ∃ n, Reaches limits limit store n ∧ Ends statement limit limits store n
      (resume statement limit limits store.clock left (progressAt store k)
        (store.send (requestsUpTo statement limit store k))) := by
  induction left generalizing k with
  | zero =>
    refine ⟨k, reached, ?_⟩
    rw [resume]
    cases hi : limits.interruption? store.clock
        (store.send (requestsUpTo statement limit store k)) with
    | some i =>
      obtain ⟨hinterrupts, hallows⟩ := interrupts_of_interruption? statement hi
      exact .before hinterrupts hallows
    | none =>
      obtain ⟨hcancelled, htime⟩ := running_of_interruption?_eq_none statement hi
      exact .before (.pageCeiling hcancelled htime (by omega))
        fun hallowed => absurd hallowed.pagesLeft (by omega)
  | succ left ih =>
    rw [resume]
    cases hi : limits.interruption? store.clock
        (store.send (requestsUpTo statement limit store k)) with
    | some i =>
      obtain ⟨hinterrupts, hallows⟩ := interrupts_of_interruption? statement hi
      exact ⟨k, reached, .before hinterrupts hallows⟩
    | none =>
      obtain ⟨hcancelled, htime⟩ := running_of_interruption?_eq_none statement hi
      have allowed : limits.Allows store k := ⟨hcancelled, htime, by omega⟩
      simp only [execute_requestAt]
      cases hanswer : store.answer k with
      | error failure =>
        exact ⟨k, reached, .failed (interrupts_fetch allowed hanswer) allowed hanswer⟩
      | ok page =>
        simp only [progressAt_add hanswer]
        cases hstop : (progressAt store (k + 1)).stop? limits limit with
        | some stop => exact ⟨k, reached, .done allowed hanswer hstop⟩
        | none =>
          refine ih (by omega) ?_
          intro j hj
          rcases Nat.lt_succ_iff_lt_or_eq.mp hj with hj | rfl
          · exact reached j hj
          · exact ⟨allowed, stop?_progressAt_eq_none_iff.mp hstop⟩

theorem exists_ends_collect (statement : String) (limit : Option Nat) (limits : Limits)
    (store : Store) :
    ∃ n, Reaches limits limit store n ∧
      Ends statement limit limits store n (collect statement limit limits store) :=
  exists_ends_resume statement (Nat.zero_add _) fun _ hj => absurd hj (Nat.not_lt_zero _)

end Steps

section Log
variable {statement : String} {limit : Option Nat} {limits : Limits} {store : Store} {k : Nat}

theorem exists_page_of_wants (h : limits.Wants limit store (k + 1)) :
    ∃ page token, store.answer k = .ok page ∧ page.token = some token ∧ token ≠ "" ∧
      store.tokenAt (k + 1) = some token := by
  have hfollowed := h.followed
  cases hanswer : store.answer k with
  | error failure => simp [Store.tokenAt, hanswer, Except.toOption] at hfollowed
  | ok page =>
    rw [Store.tokenAt_succ_of_ok hanswer] at hfollowed ⊢
    obtain ⟨token, htoken⟩ := Option.ne_none_iff_exists'.mp hfollowed
    obtain ⟨hpage, hne⟩ := Option.filter_eq_some_iff.mp htoken
    exact ⟨page, token, rfl, hpage, by simpa using hne, htoken⟩

theorem length_pagesUpTo_of_reaches (h : Reaches limits limit store k) :
    (store.pagesUpTo k).length = k := by
  induction k with
  | zero => rfl
  | succ k ih =>
    obtain ⟨page, -, hanswer, -⟩ := exists_page_of_wants (h k (Nat.lt_succ_self k)).2
    rw [Store.pagesUpTo_succ, List.length_append,
      ih fun j hj => h j (Nat.lt_succ_of_lt hj), hanswer]
    rfl

theorem wants_of_reaches (h : Reaches limits limit store k) (hk : k ≠ 0) :
    limits.Wants limit store k := by
  obtain ⟨j, rfl⟩ := Nat.exists_eq_succ_of_ne_zero hk
  exact (h j (Nat.lt_succ_self j)).2

theorem outcome_eq_ok {i : Interruption} {progress : Progress} {c : Collection}
    (h : i.outcome progress = .ok c) : c = ⟨progress.rows, progress.pages, i.stop⟩ := by
  unfold Interruption.outcome at h
  split at h
  · cases h
  · exact (Except.ok.inj h).symm

theorem exists_requestsUpTo_collect (statement : String) (limit : Option Nat) (limits : Limits)
    (store : Store) :
    ∃ m, (collect statement limit limits store).2 = store.send (requestsUpTo statement limit store m) ∧
      (∀ k < m, limits.Allows store k ∧ (k ≠ 0 → limits.Wants limit store k)) ∧
      ∀ c, (collect statement limit limits store).1 = .ok c →
        c.rows = store.rowsUpTo m ∧ c.pages = (store.pagesUpTo m).length := by
  obtain ⟨n, hreaches, hends⟩ := exists_ends_collect statement limit limits store
  have hbefore : ∀ k < n, limits.Allows store k ∧ (k ≠ 0 → limits.Wants limit store k) :=
    fun k hk => ⟨(hreaches k hk).1, wants_of_reaches fun j hj => hreaches j (Nat.lt_trans hj hk)⟩
  have hthrough (allowed : limits.Allows store n) :
      ∀ k < n + 1, limits.Allows store k ∧ (k ≠ 0 → limits.Wants limit store k) := by
    intro k hk
    rcases Nat.lt_succ_iff_lt_or_eq.mp hk with hk | rfl
    · exact hbefore k hk
    · exact ⟨allowed, wants_of_reaches hreaches⟩
  generalize collect statement limit limits store = result at hends ⊢
  cases hends with
  | before interrupted notAllowed =>
    refine ⟨n, rfl, hbefore, ?_⟩
    intro c hc
    rw [outcome_eq_ok hc, length_pagesUpTo_of_reaches hreaches]
    exact ⟨rfl, rfl⟩
  | failed interrupted allowed answer =>
    refine ⟨n + 1, rfl, hthrough allowed, ?_⟩
    intro c hc
    rw [outcome_eq_ok hc, Store.rowsUpTo_succ_of_error answer, Store.pagesUpTo_succ, answer]
    exact ⟨rfl, (length_pagesUpTo_of_reaches hreaches).symm.trans (by simp [Except.toOption])⟩
  | done allowed answer stopped =>
    refine ⟨n + 1, rfl, hthrough allowed, ?_⟩
    intro c hc
    cases hc
    rw [Store.pagesUpTo_succ, answer, List.length_append, length_pagesUpTo_of_reaches hreaches]
    exact ⟨rfl, rfl⟩

/-- A collection sends its statement page after page, each time with the token of the page before,
never beyond a bound, and what it returns are the rows of all pages that came in. -/
theorem collect_requests (statement : String) (limit : Option Nat) (limits : Limits) (store : Store) :
    ∃ log, (collect statement limit limits store).2.requests = store.requests ++ log ∧
      log.length ≤ limits.maxPages ∧
      (∀ request ∈ log, request.statement = statement ∧ request.limit = limit ∧
        request.parameters = [] ∧ request.reportCapacity = false) ∧
      (∀ request, log[0]? = some request → request.token = none) ∧
      (∀ k request, log[k + 1]? = some request →
        ∃ page token, store.answer k = .ok page ∧ page.token = some token ∧ token ≠ "" ∧
          request.token = some token) ∧
      (∀ c, (collect statement limit limits store).1 = .ok c →
        c.rows = store.rowsUpTo log.length ∧ c.pages = (store.pagesUpTo log.length).length) ∧
      ∀ k < log.length, limits.Allows store k ∧ (k ≠ 0 → limits.Wants limit store k) := by
  obtain ⟨m, hstore, hallowed, hrows⟩ := exists_requestsUpTo_collect statement limit limits store
  have hget (k : Nat) (request : Request)
      (h : (requestsUpTo statement limit store m)[k]? = some request) :
      k < m ∧ request = requestAt statement limit store k := by
    rw [requestsUpTo, List.getElem?_map] at h
    obtain ⟨j, hj, rfl⟩ := Option.map_eq_some_iff.mp h
    obtain ⟨hk, rfl⟩ := List.getElem?_eq_some_iff.mp hj
    rw [List.getElem_range]
    exact ⟨by simpa using hk, rfl⟩
  refine ⟨requestsUpTo statement limit store m, ?_, ?_, ?_, ?_, ?_, ?_, ?_⟩
  · rw [hstore, (store.sent_send _).requests]
  · rw [length_requestsUpTo]
    rcases Nat.eq_zero_or_pos m with rfl | hm
    · exact Nat.zero_le _
    · have hlast := (hallowed (m - 1) (by omega)).1.pagesLeft
      omega
  · intro request hrequest
    obtain ⟨k, -, rfl⟩ := List.mem_map.mp hrequest
    exact ⟨rfl, rfl, rfl, rfl⟩
  · intro request hrequest
    rw [(hget 0 request hrequest).2]
    rfl
  · intro k request hrequest
    obtain ⟨hk, rfl⟩ := hget (k + 1) request hrequest
    exact exists_page_of_wants ((hallowed (k + 1) hk).2 (Nat.succ_ne_zero k))
  · rwa [length_requestsUpTo]
  · rwa [length_requestsUpTo]

end Log

end Collection

end ItemStore
