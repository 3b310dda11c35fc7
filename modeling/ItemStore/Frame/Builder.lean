import ItemStore.Frame.Growing

/-! # Building frames

Rows are added one after the other. A column appears with the first value of its attribute that is
not null, and after each row every column is brought to the same length.
-/
namespace ItemStore

structure FrameBuilder where
  name : String
  /-- The time formats by attribute. -/
  formats : Entries TimeFormat := []
  columns : Entries GrowingColumn := []
  rows : Nat := 0
  deriving Repr

namespace FrameBuilder

/-- Adds the value of one attribute in the row that is being added. -/
def pushValue (b : FrameBuilder) (name : String) (value : Value) : Except Failure FrameBuilder :=
  let added := match b.columns.find? name with
    | some c => (c.append value).map some
    | none => GrowingColumn.start b.rows name value (b.formats.find? name)
  match added with
  | .ok (some c) => .ok { b with columns := b.columns.put name c }
  | .ok none => .ok b
  | .error failure => .error (failure.inContext
      ("attribute " ++ name ++ " at row " ++ String.ofList (Number.natText b.rows)))

/-- Adds the values of a row up to the first that fails. -/
def pushValues (b : FrameBuilder) : Row → Except Failure Unit × FrameBuilder
  | [] => (.ok (), b)
  | (name, value) :: rest =>
    match b.pushValue name value with
    | .ok b => b.pushValues rest
    | .error failure => (.error failure, b)

/-- A column that does not end with the row is given one more null. -/
def level (row : Nat) (c : GrowingColumn) : GrowingColumn := if c.size ≠ row + 1 then c.pad else c

/-- Adds a row. A row that fails is not counted, but what it already added stays. -/
def pushRow (b : FrameBuilder) (row : Row) : Except Failure Unit × FrameBuilder :=
  match b.pushValues row with
  | (.ok (), b) =>
    (.ok (), { b with
      columns := b.columns.map fun (name, c) => (name, level b.rows c)
      rows := b.rows + 1 })
  | failed => failed

/-- The frame of all that was added. -/
def frame (b : FrameBuilder) : Frame where
  name := b.name
  columns := b.columns.map fun (_, c) => c.column
  rowCount := b.rows
  diagnostics := b.columns.flatMap fun (_, c) => c.diagnostics

/-- Adds rows up to the first that fails. -/
def pushRows (b : FrameBuilder) : List Row → Except Failure FrameBuilder
  | [] => .ok b
  | row :: rest =>
    match b.pushRow row with
    | (.ok (), b) => b.pushRows rest
    | (.error failure, _) => .error failure

theorem names_level (b : FrameBuilder) (row : Nat) :
    Entries.names (b.columns.map fun (name, c) => (name, level row c)) = Entries.names b.columns := by
  simp [Entries.names]

end FrameBuilder

/-- The frame of a list of rows. -/
def Frame.ofRows (name : String) (rows : List Row) (formats : Entries TimeFormat) :
    Except Failure Frame :=
  (FrameBuilder.pushRows { name, formats } rows).map FrameBuilder.frame

end ItemStore
