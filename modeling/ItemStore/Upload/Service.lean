import ItemStore.Upload.CapacityTotals
import ItemStore.Upload.Plan
import ItemStore.Upload.Request
import ItemStore.Upload.Shelf

/-! # Uploads

A request is resolved to a preset, planned as a whole, and only then shown as a preview or sent
statement by statement. Sending stops at the first statement that fails.
-/
namespace ItemStore.Upload
open Number (Binary64)
open Json (Decoder Record)

structure Preview where
  preset : PresetSummary
  itemCount : Nat
  statements : List String
  payloadBytes : Nat
  /-- One unit for each statement. -/
  estimatedUnits : Binary64
  deriving Repr

structure Report where
  preset : PresetSummary
  itemCount : Nat
  statements : List String
  payloadBytes : Nat
  consumed : List CapacityTotal := []
  /-- The rows that a select preset read, each a plain JSON object. -/
  results : List Json := []
  warnings : List String := []
  deriving Repr

inductive Outcome
  | dryRun (preview : Preview)
  | executed (report : Report)
  deriving Repr

/-- The presets that can be used: the saved ones, and the configured ones behind them. -/
structure Catalog where
  shelf : Shelf := []
  settings : Settings := {}

namespace Catalog

/-- The saved presets, then each configured one whose id is not listed yet. -/
def presets (catalog : Catalog) : List PresetSummary :=
  catalog.settings.presets.foldl
    (fun listed p => if listed.any (·.id = p.id) then listed else listed ++ [p.summary])
    catalog.shelf.list

/-- The saved preset of that id, else the configured one. -/
def resolve (catalog : Catalog) (id : String) : Except Failure Preset :=
  match catalog.shelf.load id with
  | some p => .ok p
  | none => catalog.settings.find id

def idRequired : Failure := .validation "presetId is required"

def schema (catalog : Catalog) (id : String) : Except Failure PresetSummary :=
  if id = "" then .error idRequired else (catalog.resolve id).map Preset.summary

/-- The preset of a request and the plan of its items. -/
def prepare (catalog : Catalog) (request : UploadRequest) : Except Failure (Preset × Plan) :=
  if request.presetId = "" then .error idRequired
  else do
    let p ← catalog.resolve request.presetId
    let plan ← buildPlan p catalog.settings.maxPayloadKB request.items
    .ok (p, plan)

def previewOf (p : Preset) (request : UploadRequest) (plan : Plan) : Preview where
  preset := p.summary
  itemCount := request.items.length
  statements := plan.previews
  payloadBytes := plan.payloadBytes
  estimatedUnits := .ofInt plan.size

def ensureDryRunAllowed (p : Preset) : Except Failure Unit :=
  if p.allowDryRun then .ok () else .error (.forbidden "dry run is disabled for this preset")

/-- The statements of a request, without sending any. -/
def preview (catalog : Catalog) (request : UploadRequest) : Except Failure Preview := do
  let (p, plan) ← catalog.prepare request
  ensureDryRunAllowed p
  .ok (previewOf p request plan)

/-- What sending the statements of a plan brought in. -/
structure Sent where
  capacities : List Capacity := []
  rows : List Row := []

/-- The failure of the statement with the given number. -/
def failedStatement (number : Nat) (failure : Failure) : Failure :=
  .remote ("failed to execute statement " ++ toString number ++ ": " ++ failure.detail)

/-- Sends the statements, the first of which has the given number, until one fails. -/
def send (store : Store) (number : Nat) : List BuiltStatement → Except Failure Sent × Store
  | [] => (.ok {}, store)
  | built :: rest =>
    match store.execute { statement := built.statement, parameters := built.parameters,
                          reportCapacity := true } with
    | (.error failure, store) => (.error (failedStatement number failure), store)
    | (.ok page, store) =>
      match send store (number + 1) rest with
      | (.error failure, store) => (.error failure, store)
      | (.ok sent, store) =>
        (.ok ⟨page.capacity.toList ++ sent.capacities, page.rows ++ sent.rows⟩, store)

def rowsToJson : List Row → Except Failure (List Json)
  | [] => .ok []
  | row :: rest => do
    let json ← (Value.rowToJson row).mapError (·.inContext "failed to decode result item")
    let jsons ← rowsToJson rest
    .ok (json :: jsons)

/-- What the host is told of a plan that was carried out. Rows count only for a select preset, and
rows that cannot be shown leave a warning. -/
def reportOf (p : Preset) (plan : Plan) (sent : Sent) : Report :=
  let report : Report :=
    { preset := p.summary, itemCount := plan.size, statements := plan.previews,
      payloadBytes := plan.payloadBytes, consumed := capacityTotals sent.capacities }
  if p.operation = .select then
    match rowsToJson sent.rows with
    | .ok results => { report with results }
    | .error failure =>
      { report with warnings := ["failed to decode select results: " ++ failure.detail] }
  else report

/-- Carries a request out, or previews it if it asks for a dry run. -/
def execute (catalog : Catalog) (request : UploadRequest) (store : Store) :
    Except Failure Outcome × Store :=
  match catalog.prepare request with
  | .error failure => (.error failure, store)
  | .ok (p, plan) =>
    if request.dryRun then
      ((ensureDryRunAllowed p).map fun _ => .dryRun (previewOf p request plan), store)
    else
      match send store 1 plan.statements with
      | (.error failure, store) => (.error failure, store)
      | (.ok sent, store) => (.ok (.executed (reportOf p plan sent)), store)

end Catalog

/-! ### JSON form -/

namespace Preview

def toJson (r : Preview) : Json :=
  present [
    (true, "preset", r.preset.toJson),
    (true, "itemCount", .ofNat r.itemCount),
    (true, "statements", .array (r.statements.map .string)),
    (true, "payloadSizeBytes", .ofNat r.payloadBytes),
    (!r.estimatedUnits.isZero, "estimatedCapacityUnits", .ofFloat r.estimatedUnits)]

def read : Decoder Preview := fun levels w => do
  let r ← Record.ofWritten?
    ["preset", "itemCount", "statements", "payloadSizeBytes", "estimatedCapacityUnits"] levels w
  let preset ← r.required "preset" PresetSummary.read
  let itemCount ← r.required "itemCount" .nat64
  let statements ← r.required "statements" (.list .text)
  let payloadBytes ← r.required "payloadSizeBytes" .nat64
  let estimatedUnits ← r.required "estimatedCapacityUnits" .float
  some { preset, itemCount, statements, payloadBytes, estimatedUnits }

end Preview

namespace Report

def toJson (r : Report) : Json :=
  present [
    (true, "preset", r.preset.toJson),
    (true, "itemCount", .ofNat r.itemCount),
    (true, "statements", .array (r.statements.map .string)),
    (true, "payloadSizeBytes", .ofNat r.payloadBytes),
    (!r.consumed.isEmpty, "consumedCapacity", .array (r.consumed.map CapacityTotal.toJson)),
    (!r.results.isEmpty, "results", .array r.results),
    (!r.warnings.isEmpty, "warnings", .array (r.warnings.map .string))]

/-- A JSON object. -/
def readObject : Decoder Json := fun levels w =>
  match w with
  | .object _ => w.value? levels
  | _ => none

def read : Decoder Report := fun levels w => do
  let r ← Record.ofWritten?
    ["preset", "itemCount", "statements", "payloadSizeBytes", "consumedCapacity", "results",
      "warnings"] levels w
  let preset ← r.required "preset" PresetSummary.read
  let itemCount ← r.required "itemCount" .nat64
  let statements ← r.required "statements" (.list .text)
  let payloadBytes ← r.required "payloadSizeBytes" .nat64
  let consumed ← r.required "consumedCapacity" (.list CapacityTotal.read)
  let results ← r.required "results" (.list readObject)
  let warnings ← r.required "warnings" (.list .text)
  some { preset, itemCount, statements, payloadBytes, consumed, results, warnings }

end Report

end ItemStore.Upload
