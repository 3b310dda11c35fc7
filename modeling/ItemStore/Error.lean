import ItemStore.Json.Printer
import ItemStore.Json.Record

/-! # Failures

Each failure has a cause and a message. The host sees a status that depends on the cause alone, and
a context put before a message never changes it.
-/
namespace ItemStore

inductive Failure
  /-- The request itself is at fault. -/
  | validation (message : String)
  /-- A stored value cannot be read. -/
  | decode (message : String)
  /-- The store refused or failed. -/
  | remote (message : String)
  | cancelled (message : String)
  | timeout (message : String)
  | limitExceeded (message : String)
  | notFound (message : String)
  | forbidden (message : String)
  | configuration (message : String)
  /-- A JSON document cannot be read or written. -/
  | serialization (message : String)
  deriving DecidableEq, Repr

/-- How the host classifies a failure. -/
inductive Status
  | badRequest
  | notFound
  | forbidden
  | internalError
  deriving DecidableEq, Repr

namespace Failure

/-- Two steps succeed where the first does and the second does with what it gave. -/
theorem bind_eq_ok_iff {α β : Type} {x : Except Failure α} {f : α → Except Failure β} {b : β} :
    x >>= f = .ok b ↔ ∃ a, x = .ok a ∧ f a = .ok b := by
  cases x with
  | error failure => simp [bind, Except.bind]
  | ok a => simp [bind, Except.bind]

/-- Two steps fail where the first does or the second does with what it gave. -/
theorem bind_eq_error_iff {α β : Type} {x : Except Failure α} {f : α → Except Failure β}
    {failure : Failure} :
    x >>= f = .error failure ↔ x = .error failure ∨ ∃ a, x = .ok a ∧ f a = .error failure := by
  cases x with
  | error cause => simp [bind, Except.bind]
  | ok a => simp [bind, Except.bind]

theorem map_eq_ok_iff {α β : Type} {x : Except Failure α} {f : α → β} {b : β} :
    x.map f = .ok b ↔ ∃ a, x = .ok a ∧ f a = b := by
  cases x with
  | error failure => simp [Except.map]
  | ok a => simp [Except.map]

theorem map_eq_error_iff {α β : Type} {x : Except Failure α} {f : α → β} {failure : Failure} :
    x.map f = .error failure ↔ x = .error failure := by
  cases x with
  | error cause => simp [Except.map]
  | ok a => simp [Except.map]

theorem mapError_eq_ok_iff {α : Type} {x : Except Failure α} {f : Failure → Failure} {a : α} :
    x.mapError f = .ok a ↔ x = .ok a := by
  cases x with
  | error failure => constructor <;> (intro h; cases h)
  | ok b => exact Iff.rfl

theorem mapError_eq_error_iff {α : Type} {x : Except Failure α} {f : Failure → Failure}
    {failure : Failure} :
    x.mapError f = .error failure ↔ ∃ cause, x = .error cause ∧ f cause = failure := by
  cases x with
  | error cause =>
    constructor
    · intro h
      cases h
      exact ⟨cause, rfl, rfl⟩
    · rintro ⟨_, ⟨⟩, rfl⟩
      rfl
  | ok a =>
    constructor
    · intro h
      cases h
    · rintro ⟨cause, hcause, -⟩
      cases hcause

theorem toOption_eq_some_iff {α : Type} {x : Except Failure α} {a : α} :
    x.toOption = some a ↔ x = .ok a := by
  cases x with
  | error failure => simp [Except.toOption]
  | ok b => simp [Except.toOption]

/-- The message as it is shown. -/
def text : Failure → String
  | .validation m => m
  | .decode m => m
  | .remote m => m
  | .cancelled m => "query cancelled: " ++ m
  | .timeout m => m
  | .limitExceeded m => m
  | .notFound m => "Not found: " ++ m
  | .forbidden m => m
  | .configuration m => "Configuration error: " ++ m
  | .serialization m => "Serialization error: " ++ m

/-- The message without the words that name the cause, as it is quoted in another message. -/
def detail : Failure → String
  | .validation m => m
  | .decode m => m
  | .remote m => m
  | .timeout m => m
  | .limitExceeded m => m
  | .notFound m => m
  | .forbidden m => m
  | .configuration m => m
  | failure => failure.text

/-- The failure with a context before its message. A cancellation, a missing thing and a refusal
stay as they are, and a document that cannot be read becomes a value that cannot be read. -/
def inContext (failure : Failure) (context : String) : Failure :=
  let extend (m : String) := context ++ ": " ++ m
  match failure with
  | .validation m => .validation (extend m)
  | .decode m => .decode (extend m)
  | .remote m => .remote (extend m)
  | .timeout m => .timeout (extend m)
  | .limitExceeded m => .limitExceeded (extend m)
  | .configuration m => .configuration (extend m)
  | .serialization m => .decode (extend m)
  | failure => failure

def status : Failure → Status
  | .validation _ | .decode _ | .remote _ | .cancelled _ | .timeout _ | .limitExceeded _ =>
    .badRequest
  | .notFound _ => .notFound
  | .forbidden _ => .forbidden
  | .configuration _ | .serialization _ => .internalError

def isCancelled : Failure → Bool
  | .cancelled _ => true
  | _ => false

/-- The message with single quotes in place of double quotes. -/
def quotableText (failure : Failure) : String :=
  String.ofList (failure.text.toList.map fun c => if c = '"' then '\'' else c)

end Failure

namespace Status

def code : Status → Nat
  | .badRequest => 400
  | .forbidden => 403
  | .notFound => 404
  | .internalError => 500

def name : Status → String
  | .badRequest => "bad_request"
  | .notFound => "not_found"
  | .forbidden => "forbidden"
  | .internalError => "internal"

def words : List (String × Status) :=
  [Status.badRequest, .notFound, .forbidden, .internalError].map fun status => (status.name, status)

end Status

/-- What the host gets in place of a frame. -/
structure ErrorResponse where
  status : Status
  message : String
  deriving DecidableEq, Repr

namespace ErrorResponse

def ofFailure (failure : Failure) : ErrorResponse := ⟨failure.status, failure.text⟩

def toJson (response : ErrorResponse) : Json :=
  .object [("status", .string response.status.name), ("message", .string response.message)]

def read : Json.Decoder ErrorResponse := fun levels w => do
  let r ← Json.Record.ofWritten? ["status", "message"] levels w
  let status ← r.required "status" (.word Status.words)
  let message ← r.required "message" .text
  some { status, message }

end ErrorResponse

end ItemStore
