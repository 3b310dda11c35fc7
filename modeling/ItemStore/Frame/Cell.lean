import ItemStore.Json.Basic
import ItemStore.Time.Instant

/-! # Cells and columns of cells

A column holds cells of one type, and any of them may be null.
-/
namespace ItemStore
open Number (Binary64)
open Time (Instant)

inductive ColumnType
  | string
  | int64
  | float64
  | bool
  | time
  | json
  deriving DecidableEq, Repr

namespace ColumnType

def all : List ColumnType := [.string, .int64, .float64, .bool, .time, .json]

def name : ColumnType → String
  | .string => "string"
  | .int64 => "int64"
  | .float64 => "float64"
  | .bool => "bool"
  | .time => "time"
  | .json => "json"

def words : List (String × ColumnType) := all.map fun type => (type.name, type)

end ColumnType

/-- A cell that is not null. -/
inductive Cell
  | string (text : String)
  | int64 (value : Int)
  | float64 (value : Binary64)
  | bool (value : Bool)
  | time (value : Instant)
  | json (value : Json)
  deriving Repr

namespace Cell

def type : Cell → ColumnType
  | .string _ => .string
  | .int64 _ => .int64
  | .float64 _ => .float64
  | .bool _ => .bool
  | .time _ => .time
  | .json _ => .json

def string? : Cell → Option String
  | .string s => some s
  | _ => none

def int64? : Cell → Option Int
  | .int64 i => some i
  | _ => none

def float64? : Cell → Option Binary64
  | .float64 x => some x
  | _ => none

def bool? : Cell → Option Bool
  | .bool b => some b
  | _ => none

def time? : Cell → Option Instant
  | .time t => some t
  | _ => none

def json? : Cell → Option Json
  | .json v => some v
  | _ => none

end Cell

/-- The cells of a column, all of one type or null. -/
inductive ColumnData
  | string (values : List (Option String))
  | int64 (values : List (Option Int))
  | float64 (values : List (Option Binary64))
  | bool (values : List (Option Bool))
  | time (values : List (Option Instant))
  | json (values : List (Option Json))
  deriving Repr

namespace ColumnData

def type : ColumnData → ColumnType
  | .string _ => .string
  | .int64 _ => .int64
  | .float64 _ => .float64
  | .bool _ => .bool
  | .time _ => .time
  | .json _ => .json

def size : ColumnData → Nat
  | .string values => values.length
  | .int64 values => values.length
  | .float64 values => values.length
  | .bool values => values.length
  | .time values => values.length
  | .json values => values.length

def isEmpty (data : ColumnData) : Bool := data.size == 0

/-- The cells in order, null being none. -/
def cells : ColumnData → List (Option Cell)
  | .string values => values.map (·.map .string)
  | .int64 values => values.map (·.map .int64)
  | .float64 values => values.map (·.map .float64)
  | .bool values => values.map (·.map .bool)
  | .time values => values.map (·.map .time)
  | .json values => values.map (·.map .json)

/-- The cell of a row; none where it is null or the row is beyond the end. -/
def cell? (data : ColumnData) (row : Nat) : Option Cell := (data.cells[row]?).join

def isNull (data : ColumnData) (row : Nat) : Bool := (data.cell? row).isNone

/-- A column of the cell's type with that many nulls and then the cell. -/
def startingWith (cell : Cell) (nulls : Nat) : ColumnData :=
  match cell with
  | .string s => .string (List.replicate nulls none ++ [some s])
  | .int64 i => .int64 (List.replicate nulls none ++ [some i])
  | .float64 x => .float64 (List.replicate nulls none ++ [some x])
  | .bool b => .bool (List.replicate nulls none ++ [some b])
  | .time t => .time (List.replicate nulls none ++ [some t])
  | .json v => .json (List.replicate nulls none ++ [some v])

def pushNull : ColumnData → ColumnData
  | .string values => .string (values ++ [none])
  | .int64 values => .int64 (values ++ [none])
  | .float64 values => .float64 (values ++ [none])
  | .bool values => .bool (values ++ [none])
  | .time values => .time (values ++ [none])
  | .json values => .json (values ++ [none])

@[simp] theorem length_cells (data : ColumnData) : data.cells.length = data.size := by
  cases data <;> simp [cells, size]

@[simp] theorem cells_startingWith (cell : Cell) (nulls : Nat) :
    (startingWith cell nulls).cells = List.replicate nulls none ++ [some cell] := by
  cases cell <;> simp [startingWith, cells]

@[simp] theorem cells_pushNull (data : ColumnData) : data.pushNull.cells = data.cells ++ [none] := by
  cases data <;> simp [pushNull, cells]

@[simp] theorem type_startingWith (cell : Cell) (nulls : Nat) :
    (startingWith cell nulls).type = cell.type := by
  cases cell <;> rfl

@[simp] theorem type_pushNull (data : ColumnData) : data.pushNull.type = data.type := by
  cases data <;> rfl

theorem size_startingWith (cell : Cell) (nulls : Nat) :
    (startingWith cell nulls).size = nulls + 1 := by
  simp [← length_cells]

theorem size_pushNull (data : ColumnData) : data.pushNull.size = data.size + 1 := by
  simp [← length_cells]

/-- Every cell of a column has the type of the column. -/
theorem type_of_mem_cells {data : ColumnData} {cell : Cell} (h : some cell ∈ data.cells) :
    cell.type = data.type := by
  cases data <;> simp only [cells, List.mem_map, Option.map_eq_some_iff] at h <;>
    obtain ⟨_, _, _, _, rfl⟩ := h <;> rfl

end ColumnData

end ItemStore
