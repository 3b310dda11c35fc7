import ItemStore.Error
import ItemStore.Json.Record
import ItemStore.Text.Blank
import ItemStore.Text.Letter
import ItemStore.Text.Quoted

/-! # Upload presets

A preset names a table and the kind of statement that each uploaded item becomes. Its schema
declares the fields an item may have.
-/
namespace ItemStore.Upload
open Json (Decoder Record)

/-- The kind of statement. A word that names none is kept as it was written and refused on use. -/
inductive Operation
  | insert
  | update
  | delete
  | select
  | unsupported (word : String)
  deriving DecidableEq, Repr

namespace Operation

def word : Operation → String
  | .insert => "insert"
  | .update => "update"
  | .delete => "delete"
  | .select => "select"
  | .unsupported w => w

/-- Blanks around the word and the case of its letters do not matter. -/
def ofWord (w : String) : Operation :=
  match Text.lowerAscii (Text.trimmed w) with
  | "insert" => .insert
  | "update" => .update
  | "delete" => .delete
  | "select" => .select
  | _ => .unsupported w

def refusal (w : String) : Failure :=
  .validation ("operation " ++ Text.quoted w ++ " not supported")

def ensureSupported : Operation → Except Failure Unit
  | .unsupported w => .error (refusal w)
  | _ => .ok ()

end Operation

structure Field where
  name : String
  /-- The declared type: string, number, boolean, json or auto. -/
  type : String := ""
  required : Bool := false
  description : String := ""
  defaultValue : String := ""
  /-- The kind tag that decides when the declared type is auto. -/
  storeType : String := ""
  deriving DecidableEq, Repr

/-- The members of an object, less those that hold a default. -/
def present (members : List (Bool × String × Json)) : Json :=
  .object ((members.filter (·.1)).map (·.2))

namespace Field

def toJson (f : Field) : Json :=
  present [
    (true, "name", .string f.name),
    (true, "type", .string f.type),
    (f.required, "required", .bool f.required),
    (f.description ≠ "", "description", .string f.description),
    (f.defaultValue ≠ "", "defaultValue", .string f.defaultValue),
    (f.storeType ≠ "", "dynamoType", .string f.storeType)]

def read : Decoder Field := fun levels w => do
  let r ← Record.ofWritten?
    ["name", "type", "required", "description", "defaultValue", "dynamoType"] levels w
  let name ← r.required "name" .text
  let type ← r.withDefault "type" "" .text
  let required ← r.withDefault "required" false .flag
  let description ← r.withDefault "description" "" .text
  let defaultValue ← r.withDefault "defaultValue" "" .text
  let storeType ← r.withDefault "dynamoType" "" .text
  some { name, type, required, description, defaultValue, storeType }

end Field

structure Preset where
  id : String := ""
  name : String := ""
  description : String := ""
  table : String := ""
  index : String := ""
  operation : Operation := .unsupported ""
  schema : List Field := []
  template : String := ""
  allowAdHocFields : Bool := false
  allowDryRun : Bool := false
  /-- The payload cap in KB; none is set if it is not positive. -/
  maxPayloadKB : Int := 0
  responsePreview : Bool := false
  helpText : String := ""
  category : String := ""
  deriving DecidableEq, Repr

/-- What the host is shown of a preset. -/
structure PresetSummary where
  id : String := ""
  name : String := ""
  description : String := ""
  table : String := ""
  index : String := ""
  operation : Operation := .unsupported ""
  schema : List Field := []
  allowAdHocFields : Bool := false
  allowDryRun : Bool := false
  maxPayloadKB : Int := 0
  template : String := ""
  responsePreview : Bool := false
  helpText : String := ""
  category : String := ""
  deriving DecidableEq, Repr

namespace Preset

/-- A preset that is named by its id. -/
def new (id table : String) (operation : Operation) : Preset :=
  { id, name := id, table, operation }

/-- The template, unless it is blank. -/
def template? (p : Preset) : Option String :=
  if Text.trimmed p.template = "" then none else some p.template

/-- The first schema field of that name. -/
def field? (p : Preset) (name : String) : Option Field := p.schema.find? (·.name = name)

/-- The cap that applies when neither the preset nor the installation sets one. -/
def fallbackMaxKB : Int := 512

/-- The payload cap in KB. The preset's own cap counts if it is set, else that of the installation,
which never is exceeded. -/
def effectiveMaxKB (p : Preset) (installationMaxKB : Int) : Int :=
  let own := if p.maxPayloadKB ≤ 0 ∧ 0 < installationMaxKB then installationMaxKB else p.maxPayloadKB
  let cap := if own ≤ 0 then fallbackMaxKB else own
  if 0 < installationMaxKB ∧ installationMaxKB < cap then installationMaxKB else cap

theorem effectiveMaxKB_pos (p : Preset) (installationMaxKB : Int) :
    0 < p.effectiveMaxKB installationMaxKB := by
  simp only [effectiveMaxKB, fallbackMaxKB]
  grind

theorem effectiveMaxKB_le (p : Preset) {installationMaxKB : Int} (h : 0 < installationMaxKB) :
    p.effectiveMaxKB installationMaxKB ≤ installationMaxKB := by
  simp only [effectiveMaxKB, fallbackMaxKB]
  grind

/-- A preset that is saved has an id, a name and a table. -/
def validateForSave (p : Preset) : Except Failure Unit :=
  if p.id = "" then .error (.validation "preset ID is required")
  else if p.name = "" then .error (.validation "preset name is required")
  else if p.table = "" then .error (.validation "table name is required")
  else .ok ()

theorem validateForSave_ok_iff {p : Preset} :
    p.validateForSave = .ok () ↔ p.id ≠ "" ∧ p.name ≠ "" ∧ p.table ≠ "" := by
  unfold validateForSave
  grind

def summary (p : Preset) : PresetSummary :=
  { id := p.id, name := p.name, description := p.description, table := p.table, index := p.index,
    operation := p.operation, schema := p.schema, allowAdHocFields := p.allowAdHocFields,
    allowDryRun := p.allowDryRun, maxPayloadKB := p.maxPayloadKB, template := p.template,
    responsePreview := p.responsePreview, helpText := p.helpText, category := p.category }

def toJson (p : Preset) : Json :=
  present [
    (true, "id", .string p.id),
    (true, "name", .string p.name),
    (p.description ≠ "", "description", .string p.description),
    (true, "table", .string p.table),
    (p.index ≠ "", "index", .string p.index),
    (true, "operation", .string p.operation.word),
    (!p.schema.isEmpty, "schema", .array (p.schema.map Field.toJson)),
    (p.template ≠ "", "partiqlTemplate", .string p.template),
    (p.allowAdHocFields, "allowAdHocFields", .bool p.allowAdHocFields),
    (p.allowDryRun, "allowDryRun", .bool p.allowDryRun),
    (p.maxPayloadKB ≠ 0, "maxPayloadKB", .ofInt p.maxPayloadKB),
    (p.responsePreview, "responsePreview", .bool p.responsePreview),
    (p.helpText ≠ "", "helpText", .string p.helpText),
    (p.category ≠ "", "category", .string p.category)]

def read : Decoder Preset := fun levels w => do
  let r ← Record.ofWritten?
    ["id", "name", "description", "table", "index", "operation", "schema", "partiqlTemplate",
      "allowAdHocFields", "allowDryRun", "maxPayloadKB", "responsePreview", "helpText", "category"]
    levels w
  let id ← r.withDefault "id" "" .text
  let name ← r.withDefault "name" "" .text
  let description ← r.withDefault "description" "" .text
  let table ← r.withDefault "table" "" .text
  let index ← r.withDefault "index" "" .text
  let operation ← r.withDefault "operation" (.unsupported "") (.map Operation.ofWord .text)
  let schema ← r.withDefault "schema" [] (.list Field.read)
  let template ← r.withDefault "partiqlTemplate" "" .text
  let allowAdHocFields ← r.withDefault "allowAdHocFields" false .flag
  let allowDryRun ← r.withDefault "allowDryRun" false .flag
  let maxPayloadKB ← r.withDefault "maxPayloadKB" 0 .int64
  let responsePreview ← r.withDefault "responsePreview" false .flag
  let helpText ← r.withDefault "helpText" "" .text
  let category ← r.withDefault "category" "" .text
  some { id, name, description, table, index, operation, schema, template, allowAdHocFields,
         allowDryRun, maxPayloadKB, responsePreview, helpText, category }

end Preset

namespace PresetSummary

def toJson (s : PresetSummary) : Json :=
  present [
    (true, "id", .string s.id),
    (true, "name", .string s.name),
    (s.description ≠ "", "description", .string s.description),
    (true, "table", .string s.table),
    (s.index ≠ "", "index", .string s.index),
    (true, "operation", .string s.operation.word),
    (!s.schema.isEmpty, "schema", .array (s.schema.map Field.toJson)),
    (s.allowAdHocFields, "allowAdHocFields", .bool s.allowAdHocFields),
    (s.allowDryRun, "allowDryRun", .bool s.allowDryRun),
    (s.maxPayloadKB ≠ 0, "maxPayloadKB", .ofInt s.maxPayloadKB),
    (s.template ≠ "", "partiqlTemplate", .string s.template),
    (s.responsePreview, "responsePreview", .bool s.responsePreview),
    (s.helpText ≠ "", "helpText", .string s.helpText),
    (s.category ≠ "", "category", .string s.category)]

def read : Decoder PresetSummary := fun levels w => do
  let r ← Record.ofWritten?
    ["id", "name", "description", "table", "index", "operation", "schema", "allowAdHocFields",
      "allowDryRun", "maxPayloadKB", "partiqlTemplate", "responsePreview", "helpText", "category"]
    levels w
  let id ← r.withDefault "id" "" .text
  let name ← r.withDefault "name" "" .text
  let description ← r.withDefault "description" "" .text
  let table ← r.withDefault "table" "" .text
  let index ← r.withDefault "index" "" .text
  let operation ← r.withDefault "operation" (.unsupported "") (.map Operation.ofWord .text)
  let schema ← r.withDefault "schema" [] (.list Field.read)
  let allowAdHocFields ← r.withDefault "allowAdHocFields" false .flag
  let allowDryRun ← r.withDefault "allowDryRun" false .flag
  let maxPayloadKB ← r.withDefault "maxPayloadKB" 0 .int64
  let template ← r.withDefault "partiqlTemplate" "" .text
  let responsePreview ← r.withDefault "responsePreview" false .flag
  let helpText ← r.withDefault "helpText" "" .text
  let category ← r.withDefault "category" "" .text
  some { id, name, description, table, index, operation, schema, allowAdHocFields, allowDryRun,
         maxPayloadKB, template, responsePreview, helpText, category }

end PresetSummary

end ItemStore.Upload
