import ItemStore.Upload.Statement

/-! # Upload plans

A plan holds the statements of all items of a request. It exists only if every item fits the
schema, makes a statement, and stays within the payload cap together with the items before it.
-/
namespace ItemStore.Upload

structure Plan where
  statements : List BuiltStatement
  /-- The size of all items as compact JSON. -/
  payloadBytes : Nat
  deriving Repr

namespace Plan

def previews (plan : Plan) : List String := plan.statements.map (·.preview)

def size (plan : Plan) : Nat := plan.statements.length

def isEmpty (plan : Plan) : Bool := plan.statements.isEmpty

end Plan

/-- The item has every required field, and no field that the schema lacks unless those are allowed.
A preset without a schema takes anything. -/
def validateItem (p : Preset) (item : Item) : Except Failure Unit :=
  if p.schema.isEmpty then .ok ()
  else match p.schema.find? fun f => f.name ≠ "" && f.required && !item.has f.name with
    | some f => .error (missingField f.name)
    | none =>
      if p.allowAdHocFields then .ok ()
      else match item.names.find? fun name => (p.field? name).isNone with
        | some name =>
          .error (.validation ("field " ++ Text.quoted name ++ " is not allowed for preset " ++
            Text.quoted p.id))
        | none => .ok ()

/-- The size of an item as compact JSON. -/
def itemBytes (item : Item) : Nat := (Json.object item).render.utf8ByteSize

/-- The cap in bytes, at most what a signed 64-bit word holds. -/
def capBytes (maxKB : Int) : Nat := (min (maxKB * 1024) Number.int64Max).toNat

def itemLabel (number : Nat) : String := "item " ++ toString number

def oversize (maxKB : Int) (number total : Nat) : Failure :=
  .validation ("payload exceeds maximum size of " ++ String.ofList (Number.intText maxKB) ++
    " KB (item " ++ toString number ++ " pushed total to " ++ toString ((total + 1023) / 1024) ++
    " KB)")

/-- The fields of an item of the request. -/
def itemFields (number : Nat) : Json → Except Failure Item
  | .object fields => .ok fields
  | .null => .error (.validation (itemLabel number ++ " is empty"))
  | _ => .error (.validation (itemLabel number ++ " must be a JSON object"))

/-- The statements of the items from the given number on, `used` bytes being taken already. -/
def planItems (p : Preset) (maxKB : Int) (number used : Nat) :
    List Json → Except Failure (List BuiltStatement × Nat)
  | [] => .ok ([], used)
  | json :: rest => do
    let item ← itemFields number json
    (validateItem p item).mapError (·.inContext (itemLabel number))
    let total := used + itemBytes item
    if capBytes maxKB < total then .error (oversize maxKB number total)
    else do
      let built ← (buildStatement p item).mapError (·.inContext (itemLabel number))
      let (statements, bytes) ← planItems p maxKB (number + 1) total rest
      .ok (built :: statements, bytes)

/-- The plan of a list of items under a preset and the payload cap of the installation. -/
def buildPlan (p : Preset) (installationMaxKB : Int) (items : List Json) : Except Failure Plan :=
  if p.id = "" then .error (.validation "preset.id is required")
  else if p.table = "" then
    .error (.validation ("preset " ++ Text.quoted p.id ++ " missing table name"))
  else do
    p.operation.ensureSupported
    if items.isEmpty then .error (.validation "at least one item is required")
    else do
      let (statements, bytes) ← planItems p (p.effectiveMaxKB installationMaxKB) 1 0 items
      .ok ⟨statements, bytes⟩

end ItemStore.Upload
