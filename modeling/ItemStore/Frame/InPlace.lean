import ItemStore.Frame.Growing

/-! # Columns that grow in place

A column is one place in memory, and a value is added to it in steps: the cells are taken out and put
back in another type, and a note is left before or after. A step that fails ends the addition there,
and what the steps before it did to the column stays.
-/
namespace ItemStore.GrowingColumn
open Number (Binary64)

/-- Steps on a column. It goes on with what they made of it, also where they failed. -/
abbrev InPlace := ExceptT Failure (StateM GrowingColumn)

namespace InPlace

variable {α β : Type}

/-- What steps come to on a column, and the column after them. -/
def on (steps : InPlace α) (c : GrowingColumn) : Except Failure α × GrowingColumn :=
  steps.run.run c

def setData (data : ColumnData) : InPlace Unit := modify fun c => { c with data }

/-- Takes the cells out of the column. No cells are left in it until others are put there. -/
def takeData : InPlace ColumnData := do
  let c ← get
  setData (.string [])
  return c.data

def leaveNote (d : Diagnostic) : InPlace Unit := modify (·.note d)

/-- Adds a text in that row to cells that are taken out and brought back as texts. -/
def addText (row : Nat) (text : String) : InPlace Unit := do
  let values ← match ← takeData with
    | .string values => pure values
    | data => do
      leaveNote (.converted (← get).name data.type row)
      pure (data.cells.map (·.map Cell.text))
  setData (.string (values ++ [some text]))

def addFloat (row : Nat) (x : Binary64) : InPlace Unit := do
  match (← get).data with
  | .float64 values => setData (.float64 (values ++ [some x]))
  | .int64 values =>
    setData (.float64 (values.map (·.map .ofInt) ++ [some x]))
    leaveNote (.widened (← get).name row)
  | _ => addText row x.plainText

def addInt (row : Nat) (i : Int) : InPlace Unit := do
  let text := String.ofList (Number.intText i)
  match (← get).format with
  | some (.layout _) => throw TimeFormat.numberForLayout
  | some format =>
    match (← get).data with
    | .time values =>
      let t ← format.readEpoch i
      setData (.time (values ++ [some t]))
    | _ => addText row text
  | none =>
    match (← get).data with
    | .int64 values => setData (.int64 (values ++ [some i]))
    | .float64 values => setData (.float64 (values ++ [some (.ofInt i)]))
    | _ => addText row text

def addString (row : Nat) (text : String) : InPlace Unit := do
  let c ← get
  match c.format, c.data with
  | some (.layout hint), .time values =>
    let t ← (TimeFormat.layout hint).readText text
    setData (.time (values ++ [some t]))
  | _, _ => addText row text

def addBool (row : Nat) (b : Bool) : InPlace Unit := do
  match (← get).data with
  | .bool values => setData (.bool (values ++ [some b]))
  | _ => addText row (flagText b)

/-- Adds a value as JSON, or as that text where the column does not hold JSON. -/
def addJson (row : Nat) (json : Json) (text : String) : InPlace Unit := do
  match (← get).data with
  | .json values => setData (.json (values ++ [some json]))
  | _ => addText row text

/-- Adds a value that is shown as JSON. The placeholder is noted before the column is changed. -/
def addComposite (row : Nat) (value : Value) : InPlace Unit := do
  match value.toJson with
  | .ok json => addJson row json json.render
  | .error _ =>
    let placeholder := value.kind.placeholder
    leaveNote (.replaced (← get).name row placeholder)
    addJson row (.string placeholder) placeholder

/-- Adds a value of a later row. -/
def add (value : Value) : InPlace Unit := do
  let row := (← get).size
  match value with
  | .string s => addString row s
  | .number n =>
    match ← JsonNumber.ofText n with
    | .int i => addInt row i
    | .float x => addFloat row x
  | .binary _ => addText row ValueKind.binary.placeholder
  | .binarySet _ => addText row ValueKind.binarySet.placeholder
  | .bool b => addBool row b
  | .null => modify pad
  | value => addComposite row value

@[simp] theorem on_pure (a : α) (c : GrowingColumn) : on (pure a) c = (.ok a, c) := rfl

@[simp] theorem on_throw (failure : Failure) (c : GrowingColumn) :
    on (throw failure : InPlace α) c = (.error failure, c) := rfl

@[simp] theorem on_get (c : GrowingColumn) : on get c = (.ok c, c) := rfl

@[simp] theorem on_modify (f : GrowingColumn → GrowingColumn) (c : GrowingColumn) :
    on (modify f) c = (.ok (), f c) := rfl

/-- What is only read leaves the column alone. -/
@[simp] theorem on_lift (read : Except Failure α) (c : GrowingColumn) :
    on (liftM read) c = (read, c) := rfl

/-- Steps go on with the column that the steps before them left, and end with the first failure. -/
@[simp] theorem on_bind (steps : InPlace α) (next : α → InPlace β) (c : GrowingColumn) :
    on (steps >>= next) c = match on steps c with
      | (.ok a, c) => on (next a) c
      | (.error failure, c) => (.error failure, c) := by
  change (ExceptT.bindCont next (on steps c).1).run (on steps c).2 = _
  obtain ⟨result, c⟩ := on steps c
  cases result <;> rfl

@[simp] theorem on_setData (data : ColumnData) (c : GrowingColumn) :
    on (setData data) c = (.ok (), { c with data }) := rfl

@[simp] theorem on_takeData (c : GrowingColumn) :
    on takeData c = (.ok c.data, { c with data := .string [] }) := rfl

@[simp] theorem on_leaveNote (d : Diagnostic) (c : GrowingColumn) :
    on (leaveNote d) c = (.ok (), c.note d) := rfl

end InPlace

end ItemStore.GrowingColumn
