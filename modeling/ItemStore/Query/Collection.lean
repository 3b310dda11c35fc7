import ItemStore.Query.Limits
import ItemStore.Store

/-! # Collecting rows

Rows are fetched page by page until the store has no more, enough are there, or a bound is met. An
interruption returns the rows that are there, and fails only if there are none.
-/
namespace ItemStore
open Number (Binary64)

/-- Why a collection ended. -/
inductive StopReason
  | exhausted
  | limitReached
  | itemCeiling
  | cancelled
  | deadlineExceeded
  | pageCeiling
  | fetchFailed (message : String)
  deriving DecidableEq, Repr

namespace StopReason

def text : StopReason → String
  | .exhausted => "exhausted"
  | .limitReached => "limit reached"
  | .itemCeiling => "item ceiling reached"
  | .cancelled => "cancelled"
  | .deadlineExceeded => "deadline exceeded"
  | .pageCeiling => "page ceiling reached"
  | .fetchFailed message => "fetch failed: " ++ message

/-- The store may have more rows. -/
def isPartial : StopReason → Bool
  | .cancelled | .deadlineExceeded | .pageCeiling | .fetchFailed _ => true
  | _ => false

end StopReason

structure Collection where
  rows : List Row
  /-- The number of pages that were fetched. -/
  pages : Nat
  stop : StopReason
  deriving Repr

/-- What a collection stands at. -/
structure Progress where
  rows : List Row := []
  pages : Nat := 0
  /-- Where the next page starts. -/
  token : Option String := none
  deriving Repr

/-- A reason to stop with rows, or to fail without. -/
structure Interruption where
  stop : StopReason
  failure : Failure

namespace Interruption

/-- Milliseconds in seconds, the whole seconds and the rest being rounded apart. -/
def secondsOf (millis : Nat) : Binary64 :=
  (Binary64.ofInt (millis / 1000 : Nat)).add (.ofDecimal false (millis % 1000) (-3))

def cancelled : Interruption := ⟨.cancelled, .cancelled "context canceled"⟩

def deadline (limits : Limits) : Interruption :=
  ⟨.deadlineExceeded, .timeout ("query exceeded maximum duration of " ++
    String.ofList ((secondsOf limits.maxDurationMs).text .plain) ++ "s")⟩

def pageCeiling (limits : Limits) : Interruption :=
  ⟨.pageCeiling, .limitExceeded ("query exceeded maximum page limit of " ++
    String.ofList (Number.natText limits.maxPages))⟩

/-- A fetch that failed. A cancellation stays one. -/
def fetch (failure : Failure) : Interruption :=
  if failure.isCancelled then ⟨.cancelled, failure⟩
  else ⟨.fetchFailed failure.text, failure.inContext "executes statement"⟩

/-- The rows that are there, or the failure if there are none. -/
def outcome (i : Interruption) (progress : Progress) : Except Failure Collection :=
  if progress.rows.isEmpty then .error i.failure
  else .ok ⟨progress.rows, progress.pages, i.stop⟩

end Interruption

/-- A reason to stop before the next page, except for the number of pages: the caller cancelled, or
the time is over. -/
def Limits.interruption? (limits : Limits) (started : Nat) (store : Store) : Option Interruption :=
  if store.cancelled then some .cancelled
  else if limits.budget < store.clock - started then some (.deadline limits)
  else none

/-- A reason to stop after a page has come in. -/
def Progress.stop? (progress : Progress) (limits : Limits) (limit : Option Nat) : Option StopReason :=
  if limits.maxItems ≤ progress.rows.length then some .itemCeiling
  else if limit.any (· ≤ progress.rows.length) then some .limitReached
  else if progress.token.isNone then some .exhausted
  else none

namespace Progress

/-- The progress after one more page. -/
def add (progress : Progress) (page : Page) : Progress :=
  ⟨progress.rows ++ page.rows, progress.pages + 1, page.continuation⟩

end Progress

namespace Collection

/-- Goes on with a collection while at most `left` further pages may be fetched. -/
def resume (statement : String) (limit : Option Nat) (limits : Limits) (started : Nat) :
    (left : Nat) → Progress → Store → Except Failure Collection × Store
  | 0, progress, store =>
    (((limits.interruption? started store).getD (.pageCeiling limits)).outcome progress, store)
  | left + 1, progress, store =>
    match limits.interruption? started store with
    | some i => (i.outcome progress, store)
    | none =>
      match store.execute { statement, limit, token := progress.token } with
      | (.error failure, store) => ((Interruption.fetch failure).outcome progress, store)
      | (.ok page, store) =>
        let progress := progress.add page
        match progress.stop? limits limit with
        | some stop => (.ok ⟨progress.rows, progress.pages, stop⟩, store)
        | none => resume statement limit limits started left progress store

/-- Collects the rows of a statement. -/
def collect (statement : String) (limit : Option Nat) (limits : Limits) (store : Store) :
    Except Failure Collection × Store :=
  resume statement limit limits store.clock limits.maxPages {} store

end Collection

/-- The leading rows up to a limit. -/
def Row.upTo (rows : List Row) (limit : Option Nat) : List Row :=
  match limit with
  | some n => rows.take n
  | none => rows

end ItemStore
