import ItemStore.Frame.Basic
import ItemStore.Json.Printer
import ItemStore.Json.Record

/-! # Frames as JSON

A column is written with its type and its values side by side. A diagnostic is an object in which
the member `kind` says which one it is.
-/
namespace ItemStore
open Json (Written Decoder Record)

namespace ColumnData

def valuesJson {α : Type} (encode : α → Json) (values : List (Option α)) : Json :=
  .array (values.map fun v => (v.map encode).getD .null)

def toJson (data : ColumnData) : Json :=
  let values := match data with
    | .string values => valuesJson .string values
    | .int64 values => valuesJson .ofInt values
    | .float64 values => valuesJson .ofFloat values
    | .bool values => valuesJson .bool values
    | .time values => valuesJson (fun t => .string t.render) values
    | .json values => valuesJson id values
  .object [("type", .string data.type.name), ("values", values)]

def readTime : Decoder Time.Instant := fun levels w => (Decoder.text levels w).bind Time.ofDocument?

/-- Reads the values of a column of that type. -/
def readValues : ColumnType → Decoder ColumnData
  | .string => .map .string (.list (.optional .text))
  | .int64 => .map .int64 (.list (.optional .int64))
  | .float64 => .map .float64 (.list (.optional .float))
  | .bool => .map .bool (.list (.optional .flag))
  | .time => .map .time (.list (.optional readTime))
  | .json => .map .json (.list (.optional .value))

def read : Decoder ColumnData := fun levels w =>
  match w, levels with
  | .array [type, values], levels + 1 => do
    let type ← Decoder.word ColumnType.words levels type
    readValues type levels values
  | .object _, _ => do
    let r ← Record.ofWritten? ["type", "values"] levels w
    let type ← r.required "type" (.word ColumnType.words)
    r.required "values" (readValues type)
  | _, _ => none

end ColumnData

namespace Column

def toJson (column : Column) : Json :=
  .object ([("name", .string column.name)] ++
    (match column.format with
      | some format => [("datetime_format", .string format.hint)]
      | none => []) ++
    [("data", column.data.toJson)])

def read : Decoder Column := fun levels w => do
  let r ← Record.ofWritten? ["name", "datetime_format", "data"] levels w
  let name ← r.required "name" .text
  let hint ← r.withDefault "datetime_format" none (.optional .text)
  let data ← r.required "data" ColumnData.read
  some { name, format := hint.bind TimeFormat.ofHint?, data }

end Column

namespace Diagnostic

def kind : Diagnostic → String
  | .widened _ _ => "column_widened"
  | .converted _ _ _ => "converted_to_string"
  | .replaced _ _ _ => "serialization_fallback"

def toJson (d : Diagnostic) : Json :=
  .object (("kind", .string d.kind) ::
    match d with
    | .widened column row => [("column", .string column), ("row", .ofNat row)]
    | .converted column type row =>
      [("column", .string column), ("from", .string type.name), ("row", .ofNat row)]
    | .replaced column row placeholder =>
      [("column", .string column), ("row", .ofNat row), ("placeholder", .string placeholder)])

/-- Reads the members of a diagnostic of that kind. -/
def readMembers (kind : String) : Decoder Diagnostic := fun levels w =>
  match kind with
  | "column_widened" => do
    let r ← Record.ofWritten? ["column", "row"] levels w
    some (.widened (← r.required "column" .text) (← r.required "row" .nat64))
  | "converted_to_string" => do
    let r ← Record.ofWritten? ["column", "from", "row"] levels w
    some (.converted (← r.required "column" .text)
      (← r.required "from" (.word ColumnType.words)) (← r.required "row" .nat64))
  | "serialization_fallback" => do
    let r ← Record.ofWritten? ["column", "row", "placeholder"] levels w
    some (.replaced (← r.required "column" .text) (← r.required "row" .nat64)
      (← r.required "placeholder" .text))
  | _ => none

/-- Splits off the one member that names the kind. -/
def takeKind? (members : List (Option String × Written)) :
    Option (String × List (Option String × Written)) :=
  match members.partition (·.1 == some "kind") with
  | ([(_, .string (some kind))], rest) => some (kind, rest)
  | _ => none

/-- The whole diagnostic has to be a value, also where a member is skipped. -/
def read : Decoder Diagnostic := fun levels w => do
  let _ ← w.value? levels
  match w with
  | .object members => do
    let (kind, rest) ← takeKind? members
    readMembers kind levels (.object rest)
  | .array (.string (some kind) :: rest) => readMembers kind levels (.array rest)
  | _ => none

end Diagnostic

namespace Frame

def toJson (frame : Frame) : Json :=
  .object ([("name", .string frame.name), ("columns", .array (frame.columns.map Column.toJson)),
      ("row_count", .ofNat frame.rowCount)] ++
    if frame.diagnostics.isEmpty then []
    else [("diagnostics", .array (frame.diagnostics.map Diagnostic.toJson))])

def read : Decoder Frame := fun levels w => do
  let r ← Record.ofWritten? ["name", "columns", "row_count", "diagnostics"] levels w
  let name ← r.required "name" .text
  let columns ← r.required "columns" (.list Column.read)
  let rowCount ← r.withDefault "row_count" 0 .nat64
  let diagnostics ← r.withDefault "diagnostics" [] (.list Diagnostic.read)
  some { name, columns, rowCount, diagnostics }

end Frame

end ItemStore
