import ItemStore.Frame.Cell
import ItemStore.Time.Format

/-! # Frames

A frame is a table of named columns, together with what happened while it was filled.
-/
namespace ItemStore

structure Column where
  name : String
  /-- How the attribute was read, if as a time. -/
  format : Option TimeFormat := none
  data : ColumnData
  deriving Repr

/-- An adaptation that a column went through while it was filled. -/
inductive Diagnostic
  /-- A column of integers became one of floats to hold a decimal number. -/
  | widened (column : String) (row : Nat)
  /-- A column became one of texts to hold a value of another type. -/
  | converted (column : String) (type : ColumnType) (row : Nat)
  /-- A value could not be shown as JSON and a placeholder stands for it. -/
  | replaced (column : String) (row : Nat) (placeholder : String)
  deriving DecidableEq, Repr

namespace Diagnostic

def column : Diagnostic → String
  | .widened column _ => column
  | .converted column _ _ => column
  | .replaced column _ _ => column

def rowText (row : Nat) : String := String.ofList (Number.natText row)

def text : Diagnostic → String
  | .widened column row =>
    "column " ++ column ++ " widened from int64 to float64 at row " ++ rowText row
  | .converted column type row =>
    "column " ++ column ++ " converted from " ++ type.name ++ " to string at row " ++ rowText row
  | .replaced column row placeholder =>
    "column " ++ column ++ " stored placeholder " ++ placeholder ++ " at row " ++ rowText row

end Diagnostic

structure Frame where
  name : String
  columns : List Column := []
  /-- The number of rows, counted also where every attribute of a row is null. -/
  rowCount : Nat := 0
  diagnostics : List Diagnostic := []
  deriving Repr

namespace Frame

/-- The first column of that name. -/
def column? (frame : Frame) (name : String) : Option Column := frame.columns.find? (·.name == name)

def columnNames (frame : Frame) : List String := frame.columns.map (·.name)

def isEmpty (frame : Frame) : Bool := frame.columns.isEmpty

end Frame

end ItemStore
