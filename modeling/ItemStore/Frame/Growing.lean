import ItemStore.Frame.Basic
import ItemStore.Frame.Decode
import ItemStore.Json.Printer

/-! # Growing columns

A column grows by one cell at a time. Its type is that of its first cell, and where a later value
does not fit, integers become floats to hold a decimal number, and otherwise every cell becomes a
text. Each such change is noted.
-/
namespace ItemStore
open Number (Binary64)

def flagText (b : Bool) : String := if b then "true" else "false"

def Number.Binary64.plainText (x : Binary64) : String := String.ofList (x.text .plain)

/-- The text of a cell in a column of texts. -/
def Cell.text : Cell → String
  | .string s => s
  | .int64 i => String.ofList (Number.intText i)
  | .float64 x => x.plainText
  | .bool b => flagText b
  | .time t => t.render
  | .json v => v.render

structure GrowingColumn where
  name : String
  format : Option TimeFormat
  data : ColumnData
  /-- The changes that were not yet taken away, the oldest first. -/
  diagnostics : List Diagnostic := []
  deriving Repr

namespace GrowingColumn

/-- The column that begins with a value in that row, after as many nulls; a null begins none. -/
def start (row : Nat) (name : String) (value : Value) (format : Option TimeFormat) :
    Except Failure (Option GrowingColumn) := do
  let cell ← Cell.ofValue value format
  .ok (cell.map fun cell => { name, format, data := .startingWith cell row })

def size (c : GrowingColumn) : Nat := c.data.size

def pad (c : GrowingColumn) : GrowingColumn := { c with data := c.data.pushNull }

/-- The diagnostics, and the column without them. -/
def takeDiagnostics (c : GrowingColumn) : List Diagnostic × GrowingColumn :=
  (c.diagnostics, { c with diagnostics := [] })

def column (c : GrowingColumn) : Column := ⟨c.name, c.format, c.data⟩

def note (c : GrowingColumn) (d : Diagnostic) : GrowingColumn :=
  { c with diagnostics := c.diagnostics ++ [d] }

/-- Adds a text. A column of another type is rewritten as texts first. -/
def pushText (c : GrowingColumn) (text : String) : GrowingColumn :=
  match c.data with
  | .string values => { c with data := .string (values ++ [some text]) }
  | data =>
    { c.note (.converted c.name data.type data.size) with
      data := .string (data.cells.map (·.map Cell.text) ++ [some text]) }

def pushFloat (c : GrowingColumn) (x : Binary64) : GrowingColumn :=
  match c.data with
  | .float64 values => { c with data := .float64 (values ++ [some x]) }
  | .int64 values =>
    { c.note (.widened c.name values.length) with
      data := .float64 (values.map (·.map .ofInt) ++ [some x]) }
  | _ => c.pushText x.plainText

/-- Adds a whole number. A column that is read by a layout takes none, whatever it holds. -/
def pushInt (c : GrowingColumn) (i : Int) : Except Failure GrowingColumn :=
  let text := String.ofList (Number.intText i)
  match c.format, c.data with
  | some (.layout _), _ => .error TimeFormat.numberForLayout
  | some format, .time values => do
    let t ← format.readEpoch i
    .ok { c with data := .time (values ++ [some t]) }
  | none, .int64 values => .ok { c with data := .int64 (values ++ [some i]) }
  | none, .float64 values => .ok { c with data := .float64 (values ++ [some (.ofInt i)]) }
  | _, _ => .ok (c.pushText text)

def pushString (c : GrowingColumn) (text : String) : Except Failure GrowingColumn :=
  match c.format, c.data with
  | some (.layout hint), .time values => do
    let t ← (TimeFormat.layout hint).readText text
    .ok { c with data := .time (values ++ [some t]) }
  | _, _ => .ok (c.pushText text)

def pushJson (c : GrowingColumn) (json : Json) (text : String) : GrowingColumn :=
  match c.data with
  | .json values => { c with data := .json (values ++ [some json]) }
  | _ => c.pushText text

/-- Adds a value that is shown as JSON. What cannot be shown leaves a placeholder. -/
def pushComposite (c : GrowingColumn) (value : Value) : GrowingColumn :=
  match value.toJson with
  | .ok json => c.pushJson json json.render
  | .error _ =>
    let placeholder := value.kind.placeholder
    (c.note (.replaced c.name c.size placeholder)).pushJson (.string placeholder) placeholder

/-- Adds a value of a later row. A value that fails leaves the column as it is. -/
def append (c : GrowingColumn) (value : Value) : Except Failure GrowingColumn :=
  match value with
  | .string s => c.pushString s
  | .number n => do
    match ← JsonNumber.ofText n with
    | .int i => c.pushInt i
    | .float x => .ok (c.pushFloat x)
  | .binary _ => .ok (c.pushText ValueKind.binary.placeholder)
  | .binarySet _ => .ok (c.pushText ValueKind.binarySet.placeholder)
  | .bool b =>
    match c.data with
    | .bool values => .ok { c with data := .bool (values ++ [some b]) }
    | _ => .ok (c.pushText (flagText b))
  | .null => .ok c.pad
  | value => .ok (c.pushComposite value)

@[simp] theorem size_pad (c : GrowingColumn) : c.pad.size = c.size + 1 := by
  simp [pad, size, ColumnData.size_pushNull]

@[simp] theorem size_pushText (c : GrowingColumn) (text : String) :
    (c.pushText text).size = c.size + 1 := by
  unfold pushText size
  split <;> simp_all [ColumnData.size]

end GrowingColumn

end ItemStore
