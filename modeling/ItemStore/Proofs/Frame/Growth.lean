import ItemStore.Frame.Growing

/-! # How a column grows

A column that takes a value is one cell longer. The cells before it are kept, unless they are integers
that become floats or the whole column becomes one of texts, and both are noted. So whatever becomes
of the type, the last cell is null exactly if the value is, no cell before it changes between null and
not null, and what is noted on the way is about the column itself.
-/
namespace ItemStore

def Cell.widen : Cell → Cell
  | .int64 i => .float64 (.ofInt i)
  | cell => cell

def Value.isComposite : Value → Bool
  | .map _ | .list _ | .stringSet _ | .numberSet _ => true
  | _ => false

/-- What stands in the place of a composite value that cannot be shown. -/
def Value.placeholder? (value : Value) : Option String :=
  match value.isComposite, value.toJson with
  | true, .error _ => some value.kind.placeholder
  | _, _ => none

theorem Value.placeholder?_eq_some_iff {value : Value} {placeholder : String} :
    value.placeholder? = some placeholder ↔
      value.isComposite = true ∧ (∃ failure, value.toJson = .error failure) ∧
        placeholder = value.kind.placeholder := by
  rw [Value.placeholder?]
  cases value.isComposite <;> cases value.toJson <;> simp [eq_comm]

namespace ColumnData

def filled (data : ColumnData) : List Bool := data.cells.map Option.isSome

@[simp] theorem length_filled (data : ColumnData) : data.filled.length = data.size := by
  simp [filled]

@[simp] theorem filled_startingWith (cell : Cell) (nulls : Nat) :
    (startingWith cell nulls).filled = List.replicate nulls false ++ [true] := by
  simp [filled]

theorem isNull_eq_of_filled {data : ColumnData} {row : Nat} {held : Bool}
    (h : data.filled[row]? = some held) : data.isNull row = !held := by
  rw [filled, List.getElem?_map] at h
  obtain ⟨cell, hcell, rfl⟩ := Option.map_eq_some_iff.mp h
  rw [isNull, cell?, hcell]
  cases cell <;> rfl

end ColumnData

namespace GrowingColumn
open Number (Binary64)

/-- What becomes of the cells of a column, and what is noted about that. -/
inductive Change (c : GrowingColumn) (last : Option Cell) (data : ColumnData) : List Diagnostic → Prop
  | kept (type : data.type = c.data.type) (cells : data.cells = c.data.cells ++ [last]) :
      Change c last data []
  | widened (before : c.data.type = .int64) (type : data.type = .float64)
      (cells : data.cells = c.data.cells.map (·.map Cell.widen) ++ [last]) :
      Change c last data [.widened c.name c.size]
  | converted (before : c.data.type ≠ .string) (type : data.type = .string)
      (cells : data.cells = c.data.cells.map (·.map fun cell => .string cell.text) ++ [last]) :
      Change c last data [.converted c.name c.data.type c.size]

/-- A column that took one more cell, with the notes that came before those about its cells. -/
structure Step (c : GrowingColumn) (shown : List Diagnostic) (last : Option Cell)
    (after : GrowingColumn) : Prop where
  name : after.name = c.name
  format : after.format = c.format
  change : ∃ notes, c.Change last after.data notes ∧ after.diagnostics = c.diagnostics ++ shown ++ notes

variable {c after : GrowingColumn}

theorem step_of_kept (c : GrowingColumn) {last : Option Cell} {data : ColumnData}
    (type : data.type = c.data.type) (cells : data.cells = c.data.cells ++ [last]) :
    c.Step [] last { c with data } :=
  ⟨rfl, rfl, [], .kept type cells, by simp⟩

theorem step_pad (c : GrowingColumn) : c.Step [] none c.pad :=
  step_of_kept c (ColumnData.type_pushNull _) (ColumnData.cells_pushNull _)

/-- A note says what happens and leaves the cells alone. -/
theorem Step.of_note {d : Diagnostic} {last : Option Cell} (h : (c.note d).Step [] last after) :
    c.Step [d] last after := by
  obtain ⟨notes, hchange, hnotes⟩ := h.change
  refine ⟨h.name, h.format, notes, ?_, by simpa [note] using hnotes⟩
  cases hchange with
  | kept type cells => exact .kept type cells
  | widened before type cells => exact .widened before type cells
  | converted before type cells => exact .converted before type cells

theorem step_pushText (c : GrowingColumn) (text : String) :
    c.Step [] (some (.string text)) (c.pushText text) := by
  unfold pushText
  split
  · next values hdata =>
    exact step_of_kept c (by rw [hdata]; rfl) (by simp [hdata, ColumnData.cells])
  · next hother =>
    refine ⟨rfl, rfl, _, .converted ?_ rfl ?_, by simp [note, size]⟩
    · intro htype
      cases hdata : c.data with
      | string values => exact hother values hdata
      | _ => simp [hdata, ColumnData.type] at htype
    · simp [ColumnData.cells, Function.comp_def]

theorem step_pushFloat (c : GrowingColumn) (x : Binary64) :
    ∃ cell, (cell = .float64 x ∨ cell = .string x.plainText) ∧
      c.Step [] (some cell) (c.pushFloat x) := by
  unfold pushFloat
  split
  · next values hdata =>
    exact ⟨.float64 x, .inl rfl,
      step_of_kept c (by rw [hdata]; rfl) (by simp [hdata, ColumnData.cells])⟩
  · next values hdata =>
    refine ⟨.float64 x, .inl rfl, rfl, rfl, _, .widened (by rw [hdata]; rfl) rfl ?_, ?_⟩
    · simp [hdata, ColumnData.cells, Function.comp_def, Cell.widen]
    · simp [note, size, hdata, ColumnData.size]
  · exact ⟨_, .inr rfl, step_pushText c _⟩

/-- Only a number format makes an integer a time. -/
theorem step_pushInt {i : Int} (h : c.pushInt i = .ok after) :
    ∃ cell, (cell = .int64 i ∨ cell = .float64 (.ofInt i) ∨
        cell = .string (String.ofList (Number.intText i)) ∨
        ∃ format t, c.format = some format ∧ format.readEpoch i = .ok t ∧ cell = .time t) ∧
      c.Step [] (some cell) after := by
  unfold pushInt at h
  split at h
  · cases h
  · next format values _ hformat hdata =>
    obtain ⟨t, hread, h⟩ := Failure.bind_eq_ok_iff.mp h
    cases h
    exact ⟨.time t, .inr (.inr (.inr ⟨format, t, hformat, hread, rfl⟩)),
      step_of_kept c (by rw [hdata]; rfl) (by simp [hdata, ColumnData.cells])⟩
  · next values hformat hdata =>
    cases h
    exact ⟨.int64 i, by simp, step_of_kept c (by rw [hdata]; rfl) (by simp [hdata, ColumnData.cells])⟩
  · next values hformat hdata =>
    cases h
    exact ⟨.float64 (.ofInt i), by simp,
      step_of_kept c (by rw [hdata]; rfl) (by simp [hdata, ColumnData.cells])⟩
  · cases h
    exact ⟨_, by simp, step_pushText c _⟩

/-- Only a layout makes a text a time. -/
theorem step_pushString {text : String} (h : c.pushString text = .ok after) :
    ∃ cell, (cell = .string text ∨
        ∃ hint t, (TimeFormat.layout hint).readText text = .ok t ∧ cell = .time t) ∧
      c.Step [] (some cell) after := by
  unfold pushString at h
  split at h
  · next hint values hformat hdata =>
    obtain ⟨t, hread, h⟩ := Failure.bind_eq_ok_iff.mp h
    cases h
    exact ⟨.time t, .inr ⟨hint, t, hread, rfl⟩,
      step_of_kept c (by rw [hdata]; rfl) (by simp [hdata, ColumnData.cells])⟩
  · cases h
    exact ⟨_, .inl rfl, step_pushText c text⟩

theorem step_pushJson (c : GrowingColumn) (json : Json) (text : String) :
    ∃ cell, (cell = .json json ∨ cell = .string text) ∧
      c.Step [] (some cell) (c.pushJson json text) := by
  unfold pushJson
  split
  · next values hdata =>
    exact ⟨.json json, .inl rfl,
      step_of_kept c (by rw [hdata]; rfl) (by simp [hdata, ColumnData.cells])⟩
  · exact ⟨_, .inr rfl, step_pushText c text⟩

/-- What may be noted before the cells change: that a placeholder stands for the value. -/
def Shown (c : GrowingColumn) (shown : List Diagnostic) : Prop :=
  shown = [] ∨ ∃ placeholder, shown = [.replaced c.name c.size placeholder]

def replacements (c : GrowingColumn) (placeholder : Option String) : List Diagnostic :=
  placeholder.toList.map (.replaced c.name c.size)

theorem shown_replacements (c : GrowingColumn) (placeholder : Option String) :
    c.Shown (c.replacements placeholder) := by
  cases placeholder with
  | none => exact .inl rfl
  | some placeholder => exact .inr ⟨placeholder, rfl⟩

/-- The cell is a placeholder where the value has to be replaced. -/
def Replaces (cell : Cell) (value : Value) : Prop :=
  ∀ placeholder, value.placeholder? = some placeholder →
    cell = .string placeholder ∨ cell = .json (.string placeholder)

/-- A composite value that cannot be shown is a filled cell all the same. -/
theorem step_pushComposite (c : GrowingColumn) {value : Value} (hvalue : value.isComposite = true) :
    ∃ cell, Replaces cell value ∧
      c.Step (c.replacements value.placeholder?) (some cell) (c.pushComposite value) := by
  unfold pushComposite
  cases hjson : value.toJson with
  | ok json =>
    have hshown : value.placeholder? = none := by simp [Value.placeholder?, hvalue, hjson]
    obtain ⟨cell, -, hstep⟩ := step_pushJson c json json.render
    refine ⟨cell, ?_, ?_⟩
    · intro placeholder h
      rw [hshown] at h
      cases h
    · rw [hshown]
      exact hstep
  | error failure =>
    have hshown : value.placeholder? = some value.kind.placeholder := by
      simp [Value.placeholder?, hvalue, hjson]
    obtain ⟨cell, hcell, hstep⟩ :=
      step_pushJson _ (.string value.kind.placeholder) value.kind.placeholder
    refine ⟨cell, ?_, ?_⟩
    · intro placeholder h
      rw [hshown] at h
      cases h
      exact hcell.symm
    · rw [hshown]
      exact hstep.of_note

/-- A column that took a value. Its last cell is null exactly if the value is, and a placeholder
exactly if the value cannot be shown, which is noted. -/
structure Appends (c : GrowingColumn) (value : Value) (last : Option Cell) (after : GrowingColumn) :
    Prop where
  filled : last.isSome = !value.isNull
  replaced : ∀ cell ∈ last, Replaces cell value
  step : c.Step (c.replacements value.placeholder?) last after

theorem exists_appends {value : Value} (h : c.append value = .ok after) :
    ∃ last, c.Appends value last after := by
  have hplain {last : Option Cell} (hstep : c.Step [] last after) (hsome : last.isSome = !value.isNull)
      (hvalue : value.isComposite = false) : ∃ last, c.Appends value last after := by
    have hshown : value.placeholder? = none := by simp [Value.placeholder?, hvalue]
    refine ⟨last, hsome, ?_, ?_⟩
    · intro cell _ placeholder h
      rw [hshown] at h
      cases h
    · rw [hshown]
      exact hstep
  have hcomposite (happend : after = c.pushComposite value) (hvalue : value.isComposite = true)
      (hnull : value.isNull = false) : ∃ last, c.Appends value last after := by
    obtain ⟨cell, hcell, hstep⟩ := step_pushComposite c hvalue
    refine ⟨some cell, by simp [hnull], ?_, happend ▸ hstep⟩
    intro _ h
    cases h
    exact hcell
  cases value with
  | string s =>
    obtain ⟨cell, -, hstep⟩ := step_pushString h
    exact hplain hstep rfl rfl
  | number n =>
    obtain ⟨number, -, h⟩ := Failure.bind_eq_ok_iff.mp h
    cases number with
    | int i =>
      obtain ⟨cell, -, hstep⟩ := step_pushInt h
      exact hplain hstep rfl rfl
    | float x =>
      cases h
      obtain ⟨cell, -, hstep⟩ := step_pushFloat c x
      exact hplain hstep rfl rfl
  | binary bytes | binarySet items =>
    cases h
    exact hplain (step_pushText c _) rfl rfl
  | bool b =>
    simp only [append] at h
    split at h
    · next values hdata =>
      cases h
      have hstep : c.Step [] (some (.bool b)) { c with data := .bool (values ++ [some b]) } :=
        step_of_kept c (by rw [hdata]; rfl) (by simp [hdata, ColumnData.cells])
      exact hplain hstep rfl rfl
    · cases h
      exact hplain (step_pushText c _) rfl rfl
  | null =>
    cases h
    exact hplain (step_pad c) rfl rfl
  | map entries | list items | stringSet items | numberSet items =>
    cases h
    exact hcomposite rfl rfl rfl

theorem step_append {value : Value} (h : c.append value = .ok after) :
    ∃ shown last, c.Shown shown ∧ last.isSome = !value.isNull ∧ c.Step shown last after := by
  obtain ⟨last, happends⟩ := exists_appends h
  exact ⟨_, last, shown_replacements c _, happends.filled, happends.step⟩

/-- A column notes the row in which it becomes one of texts, and nothing else does that. -/
theorem Step.converted_mem_iff {shown : List Diagnostic} {last : Option Cell}
    (h : c.Step shown last after) (hshown : c.Shown shown) {type : ColumnType} {row : Nat} :
    .converted after.name type row ∈ after.diagnostics ↔
      .converted c.name type row ∈ c.diagnostics ∨
        c.data.type ≠ .string ∧ after.data.type = .string ∧ type = c.data.type ∧ row = c.size := by
  obtain ⟨notes, hchange, hdiagnostics⟩ := h.change
  have hnew : .converted c.name type row ∉ shown := by
    rcases hshown with rfl | ⟨placeholder, rfl⟩ <;> simp
  rw [h.name, hdiagnostics]
  cases hchange with
  | kept htype cells =>
    simp only [List.append_nil, List.mem_append, hnew, or_false, iff_self_or]
    rintro ⟨hbefore, hafter, -⟩
    exact absurd (htype.symm.trans hafter) hbefore
  | widened before htype cells => simp [hnew, htype]
  | converted before htype cells => simp [hnew, before, htype]

theorem Step.getElem?_last {shown : List Diagnostic} {last : Option Cell}
    (h : c.Step shown last after) :
    after.data.cells[c.size]? = some last := by
  obtain ⟨notes, hchange, -⟩ := h.change
  have hsize : c.data.cells.length = c.size := ColumnData.length_cells c.data
  cases hchange with
  | kept type cells | widened before type cells | converted before type cells => simp [cells, hsize]

/-! ### What does not depend on the types -/

structure Grows (c : GrowingColumn) (held : Bool) (after : GrowingColumn) : Prop where
  name : after.name = c.name
  format : after.format = c.format
  filled : after.data.filled = c.data.filled ++ [held]

theorem Step.grows {shown : List Diagnostic} {last : Option Cell} (h : c.Step shown last after) :
    c.Grows last.isSome after := by
  obtain ⟨notes, hchange, -⟩ := h.change
  refine ⟨h.name, h.format, ?_⟩
  cases hchange with
  | kept type cells => simp [ColumnData.filled, cells]
  | widened before type cells => simp [ColumnData.filled, cells, Function.comp_def]
  | converted before type cells => simp [ColumnData.filled, cells, Function.comp_def]

theorem Grows.size {held : Bool} (h : c.Grows held after) : after.size = c.size + 1 := by
  rw [GrowingColumn.size, GrowingColumn.size, ← ColumnData.length_filled, h.filled,
    List.length_append, ColumnData.length_filled]
  rfl

theorem grows_pad (c : GrowingColumn) : c.Grows false c.pad := c.step_pad.grows

theorem grows_append {value : Value} (h : c.append value = .ok after) :
    c.Grows (!value.isNull) after := by
  obtain ⟨shown, last, -, hlast, hstep⟩ := step_append h
  rw [← hlast]
  exact hstep.grows

def OwnNotes (c : GrowingColumn) : Prop := ∀ d ∈ c.diagnostics, d.column = c.name

theorem OwnNotes.append (h : c.OwnNotes) {value : Value} (happend : c.append value = .ok after) :
    after.OwnNotes := by
  obtain ⟨shown, last, hshown, -, hstep⟩ := step_append happend
  obtain ⟨notes, hchange, hdiagnostics⟩ := hstep.change
  have hshownown : ∀ d ∈ shown, d.column = c.name := by
    rcases hshown with rfl | ⟨placeholder, rfl⟩ <;> simp [Diagnostic.column]
  have hnotesown : ∀ d ∈ notes, d.column = c.name := by
    cases hchange <;> simp [Diagnostic.column]
  intro d hd
  rw [hdiagnostics, List.mem_append, List.mem_append] at hd
  rw [hstep.name]
  rcases hd with (hd | hd) | hd
  · exact h d hd
  · exact hshownown d hd
  · exact hnotesown d hd

end GrowingColumn

end ItemStore
