import ItemStore.Frame.InPlace
import ItemStore.Proofs.Frame.Growth

/-! # Values that a column takes or refuses in place

Whatever can be refused about a value is found out before the column is touched. So a refused value
leaves no trace, though a column that grows in place is never put back. A value that is taken adds one
cell, and the cells before it stay as they are or are all rendered in the new type.
-/
namespace ItemStore.GrowingColumn
open Number (Binary64)

/-- What becomes of the cells of a column: they stay the same with its type, or all of them are rendered
as floats or as texts with it. -/
inductive Keeps (c after : GrowingColumn) : Prop
  | same (type : after.data.type = c.data.type)
    (cells : ∀ row < c.size, after.data.cell? row = c.data.cell? row)
  | widened (before : c.data.type = .int64) (type : after.data.type = .float64)
    (cells : ∀ row < c.size, after.data.cell? row = (c.data.cell? row).map Cell.widen)
  | converted (before : c.data.type ≠ .string) (type : after.data.type = .string)
    (cells : ∀ row < c.size,
      after.data.cell? row = (c.data.cell? row).map fun cell => .string cell.text)

/-- A column with one more cell, which is null exactly if the value is. No cell before it became null,
and none that was null was filled. -/
structure Extends (c : GrowingColumn) (value : Value) (after : GrowingColumn) : Prop where
  size : after.size = c.size + 1
  last : after.data.isNull c.size = value.isNull
  nulls : ∀ row < c.size, after.data.isNull row = c.data.isNull row
  keeps : c.Keeps after

variable {c after : GrowingColumn} {value : Value}

/-! ### Cells before the last -/

theorem cell?_of_cells {f : Cell → Cell} {last : Option Cell}
    (h : after.data.cells = c.data.cells.map (·.map f) ++ [last]) {row : Nat} (hrow : row < c.size) :
    after.data.cell? row = (c.data.cell? row).map f := by
  have hlength : row < c.data.cells.length := by rwa [ColumnData.length_cells]
  rw [ColumnData.cell?, ColumnData.cell?, h, List.getElem?_append_left (by simpa using hlength),
    List.getElem?_map, List.getElem?_eq_getElem hlength]
  rfl

theorem Step.keeps {shown : List Diagnostic} {last : Option Cell} (h : c.Step shown last after) :
    c.Keeps after := by
  obtain ⟨notes, hchange, -⟩ := h.change
  cases hchange with
  | kept type cells =>
    have hsame : after.data.cells = c.data.cells.map (·.map id) ++ [last] := by simpa using cells
    exact .same type fun row hrow => by simpa using cell?_of_cells hsame hrow
  | widened before type cells => exact .widened before type fun row hrow => cell?_of_cells cells hrow
  | converted before type cells =>
    exact .converted before type fun row hrow => cell?_of_cells cells hrow

theorem Keeps.isNull_eq (h : c.Keeps after) {row : Nat} (hrow : row < c.size) :
    after.data.isNull row = c.data.isNull row := by
  rw [ColumnData.isNull, ColumnData.isNull]
  cases h with
  | same type cells => rw [cells row hrow]
  | widened before type cells => rw [cells row hrow, Option.isNone_map]
  | converted before type cells => rw [cells row hrow, Option.isNone_map]

theorem extends_of_append (h : c.append value = .ok after) : c.Extends value after := by
  obtain ⟨shown, last, -, hlast, hstep⟩ := step_append h
  have hcell : after.data.cell? c.size = last := by
    rw [ColumnData.cell?, hstep.getElem?_last]
    rfl
  refine ⟨hstep.grows.size, ?_, fun row hrow => hstep.keeps.isNull_eq hrow, hstep.keeps⟩
  rw [ColumnData.isNull, hcell, ← Bool.not_inj_iff, ← hlast]
  cases last <;> rfl

/-! ### Steps in place -/

def settle (c : GrowingColumn) : Except Failure GrowingColumn → Except Failure Unit × GrowingColumn
  | .ok after => (.ok (), after)
  | .error failure => (.error failure, c)

namespace InPlace

/-- What is to be put in the column is read before anything is put there. -/
theorem on_read {α : Type} (c : GrowingColumn) (read : Except Failure α) (data : α → ColumnData) :
    on (do let a ← read; setData (data a)) c =
      c.settle (do let a ← read; .ok { c with data := data a }) := by
  cases read <;> rfl

theorem on_addText (c : GrowingColumn) (text : String) :
    (addText c.size text).on c = (.ok (), c.pushText text) := by
  simp only [addText, on_bind, on_takeData, pushText]
  cases hdata : c.data with
  | string values => simp
  | _ => simp [hdata, note, GrowingColumn.size]

theorem on_addFloat (c : GrowingColumn) (x : Binary64) :
    (addFloat c.size x).on c = (.ok (), c.pushFloat x) := by
  simp only [addFloat, on_bind, on_get, pushFloat]
  cases hdata : c.data with
  | float64 values => simp
  | int64 values => simp [hdata, note, GrowingColumn.size, ColumnData.size]
  | _ => simp [on_addText]

theorem on_addInt (c : GrowingColumn) (i : Int) :
    (addInt c.size i).on c = c.settle (c.pushInt i) := by
  obtain ⟨name, format, data, diagnostics⟩ := c
  simp only [addInt, on_bind, on_get, pushInt]
  cases format with
  | none => cases data <;> simp [on_addText, settle]
  | some format =>
    cases format with
    | layout hint => simp [settle]
    | unixSeconds | unixMillis =>
      cases data with
      | time values => exact on_read _ _ _
      | _ => simp [on_addText, settle]

theorem on_addString (c : GrowingColumn) (text : String) :
    (addString c.size text).on c = c.settle (c.pushString text) := by
  obtain ⟨name, format, data, diagnostics⟩ := c
  simp only [addString, on_bind, on_get, pushString]
  cases format with
  | none => simp [on_addText, settle]
  | some format =>
    cases format with
    | unixSeconds | unixMillis => simp [on_addText, settle]
    | layout hint =>
      cases data with
      | time values => exact on_read _ _ _
      | _ => simp [on_addText, settle]

theorem on_addBool (c : GrowingColumn) (b : Bool) :
    (addBool c.size b).on c = c.settle (c.append (.bool b)) := by
  simp only [addBool, on_bind, on_get, append]
  cases hdata : c.data with
  | bool values => simp [settle]
  | _ => simp [on_addText, settle]

theorem on_addJson (c : GrowingColumn) (json : Json) (text : String) :
    (addJson c.size json text).on c = (.ok (), c.pushJson json text) := by
  simp only [addJson, on_bind, on_get, pushJson]
  cases hdata : c.data with
  | json values => simp
  | _ => simp [on_addText]

/-- The note of a placeholder comes first, and nothing can fail after it. -/
theorem on_addComposite (c : GrowingColumn) (value : Value) :
    (addComposite c.size value).on c = (.ok (), c.pushComposite value) := by
  simp only [addComposite, pushComposite]
  cases value.toJson with
  | ok json => exact on_addJson c json json.render
  | error failure =>
    simp only [on_bind, on_get, on_leaveNote]
    exact on_addJson (c.note _) (.string value.kind.placeholder) value.kind.placeholder

/-- Adding a value in place comes to what is made of the column as a whole. -/
theorem on_add (c : GrowingColumn) (value : Value) : (add value).on c = c.settle (c.append value) := by
  cases value with
  | string s => simpa [add, append] using on_addString c s
  | number n =>
    simp only [add, on_bind, on_get, on_lift, append]
    cases JsonNumber.ofText n with
    | error failure => rfl
    | ok number =>
      cases number with
      | int i => exact on_addInt c i
      | float x => exact on_addFloat c x
  | binary bytes | binarySet items => simp [add, append, on_addText, settle]
  | bool b => simpa [add] using on_addBool c b
  | null => simp [add, append, settle]
  | map entries | list items | stringSet items | numberSet items =>
    simp [add, append, on_addComposite, settle]

/-- Adding a value in place is refused or taken as it is for the column as a whole. A value that is
refused leaves the column as it is, with its cells, their type and its notes. A value that is taken makes
the column one cell longer, and the cells before that one are kept or rendered in the new type. -/
theorem add_refused_or_taken (c : GrowingColumn) (value : Value) :
    (add value).on c = c.settle (c.append value) ∧
    (∀ failure after, (add value).on c = (.error failure, after) → after = c) ∧
    ∀ after, (add value).on c = (.ok (), after) → c.Extends value after := by
  rw [on_add]
  refine ⟨rfl, ?_⟩
  cases happend : c.append value with
  | error cause =>
    constructor
    · intro failure after h
      cases h
      rfl
    · intro after h
      cases h
  | ok grown =>
    constructor
    · intro failure after h
      cases h
    · intro after h
      cases h
      exact extends_of_append happend

/-- A number that a layout refuses, and one that turns integers into floats. -/
theorem add_refused_or_taken_of_numbers :
    let times : GrowingColumn := { name := "t", format := some (.layout "%Y"), data := .time [none] }
    let counts : GrowingColumn := { name := "n", format := none, data := .int64 [some 1, none] }
    (∃ failure after, (add (.number "1")).on times = (.error failure, after) ∧ after = times) ∧
      ∃ after, (add (.number "1.5")).on counts = (.ok (), after) ∧ after.data.type = .float64 ∧
        counts.Extends (.number "1.5") after := by
  intro times counts
  obtain ⟨-, hrefused, -⟩ := add_refused_or_taken times (.number "1")
  obtain ⟨hadded, -, htaken⟩ := add_refused_or_taken counts (.number "1.5")
  obtain ⟨failure, hfails⟩ : ∃ failure, (add (.number "1")).on times = (.error failure, times) :=
    ⟨_, rfl⟩
  obtain ⟨after, hafter, htype⟩ : ∃ after, counts.append (.number "1.5") = .ok after ∧
      after.data.type = .float64 := ⟨_, rfl, rfl⟩
  rw [hafter] at hadded
  exact ⟨⟨failure, times, hfails, hrefused failure times hfails⟩, after, hadded, htype,
    htaken after hadded⟩

end InPlace

end ItemStore.GrowingColumn
