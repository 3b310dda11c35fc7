import ItemStore.Store
import Mathlib.Algebra.Ring.Nat
import Mathlib.Data.List.Induction

/-! # Runs of statements

What a store answers to the statements to come, how long they take and when the caller cancels, all
by their number from the present on. None of it depends on what the statements say.
-/
namespace ItemStore.Store

def send (store : Store) (requests : List Request) : Store :=
  requests.foldl (fun store request => (store.execute request).2) store

/-- The answer to the statement that follows `k` others. -/
def answer (store : Store) (k : Nat) : Except Failure Page := store.answers[k]?.getD (.ok {})

def elapsed (store : Store) (k : Nat) : Nat :=
  ((List.range k).map fun j => store.latency (store.requests.length + j + 1)).sum

def cancelledAfter (store : Store) (k : Nat) : Bool :=
  store.cancelled ||
    store.cancelDuring.any fun n => store.requests.length < n && n ≤ store.requests.length + k

def pagesUpTo (store : Store) (k : Nat) : List Page :=
  (List.range k).filterMap fun j => (store.answer j).toOption

def rowsUpTo (store : Store) (k : Nat) : List Row := (store.pagesUpTo k).flatMap Page.rows

/-- Where the page that follows `k` others starts, if the page before it says so. -/
def tokenAt (store : Store) : Nat → Option String
  | 0 => none
  | k + 1 => (store.answer k).toOption.bind Page.continuation

@[simp] theorem send_nil (store : Store) : store.send [] = store := rfl

theorem send_concat (store : Store) (requests : List Request) (request : Request) :
    store.send (requests ++ [request]) = ((store.send requests).execute request).2 := by
  simp [send]

@[simp] theorem elapsed_zero (store : Store) : store.elapsed 0 = 0 := rfl

theorem elapsed_succ (store : Store) (k : Nat) :
    store.elapsed (k + 1) = store.elapsed k + store.latency (store.requests.length + k + 1) := by
  simp [elapsed, List.range_succ]

theorem cancelledAfter_zero (store : Store) : store.cancelledAfter 0 = store.cancelled := by
  rw [cancelledAfter]
  cases store.cancelDuring with
  | none => simp
  | some n =>
    have hn : ¬ (store.requests.length < n ∧ n ≤ store.requests.length) := by omega
    simp [hn]

theorem cancelledAfter_succ (store : Store) (k : Nat) :
    store.cancelledAfter (k + 1) =
      (store.cancelledAfter k || store.cancelDuring == some (store.requests.length + k + 1)) := by
  rw [cancelledAfter, cancelledAfter, Bool.or_assoc]
  congr 1
  cases store.cancelDuring with
  | none => rfl
  | some n =>
    rw [Bool.eq_iff_iff]
    simp
    omega

theorem pagesUpTo_succ (store : Store) (k : Nat) :
    store.pagesUpTo (k + 1) = store.pagesUpTo k ++ (store.answer k).toOption.toList := by
  rw [pagesUpTo, List.range_succ, List.filterMap_append]
  cases h : (store.answer k).toOption <;> simp [pagesUpTo, h]

theorem rowsUpTo_succ_of_ok {store : Store} {k : Nat} {page : Page} (h : store.answer k = .ok page) :
    store.rowsUpTo (k + 1) = store.rowsUpTo k ++ page.rows := by
  simp [rowsUpTo, pagesUpTo_succ, h, Except.toOption]

theorem rowsUpTo_succ_of_error {store : Store} {k : Nat} {failure : Failure}
    (h : store.answer k = .error failure) : store.rowsUpTo (k + 1) = store.rowsUpTo k := by
  simp [rowsUpTo, pagesUpTo_succ, h, Except.toOption]

theorem tokenAt_succ_of_ok {store : Store} {k : Nat} {page : Page} (h : store.answer k = .ok page) :
    store.tokenAt (k + 1) = page.continuation := by
  simp [tokenAt, h, Except.toOption]

/-- All that a run of statements does to a store, apart from noting them. -/
structure Sent (store : Store) (sent : List Request) (after : Store) : Prop where
  requests : after.requests = store.requests ++ sent
  answers : after.answers = store.answers.drop sent.length
  clock : after.clock = store.clock + store.elapsed sent.length
  cancelled : after.cancelled = store.cancelledAfter sent.length
  latency : after.latency = store.latency
  cancelDuring : after.cancelDuring = store.cancelDuring

theorem Sent.execute {store after : Store} {sent : List Request} (h : store.Sent sent after)
    (request : Request) : store.Sent (sent ++ [request]) (after.execute request).2 where
  requests := by simp [h.requests]
  answers := by simp [Store.execute, h.answers]
  clock := by
    simp [Store.execute, h.clock, h.latency, h.requests, elapsed_succ, Nat.add_assoc]
  cancelled := by
    simp [Store.execute, h.cancelled, h.cancelDuring, h.requests, cancelledAfter_succ]
  latency := h.latency
  cancelDuring := h.cancelDuring

theorem sent_send (store : Store) (requests : List Request) :
    store.Sent requests (store.send requests) := by
  induction requests using List.reverseRecOn with
  | nil => exact ⟨by simp, by simp, by simp, store.cancelledAfter_zero.symm, rfl, rfl⟩
  | append_singleton requests request ih =>
    rw [send_concat]
    exact ih.execute request

theorem requests_send (store : Store) (requests : List Request) :
    (store.send requests).requests = store.requests ++ requests :=
  (store.sent_send requests).requests

/-- The next statement is answered first, and it takes its answer from those that follow. -/
theorem execute_eq (store : Store) (request : Request) :
    store.execute request = (store.answer 0, (store.execute request).2) := by
  refine Prod.ext ?_ rfl
  simp [Store.execute, answer, List.head?_eq_getElem?]

theorem answer_execute (store : Store) (request : Request) (k : Nat) :
    (store.execute request).2.answer k = store.answer (k + 1) := by
  simp [Store.execute, answer, List.getElem?_tail]

theorem execute_send (store : Store) (requests : List Request) (request : Request) :
    (store.send requests).execute request =
      (store.answer requests.length, store.send (requests ++ [request])) := by
  rw [send_concat]
  refine Prod.ext ?_ rfl
  simp [Store.execute, answer, (store.sent_send requests).answers]

end ItemStore.Store
