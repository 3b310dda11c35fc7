import ItemStore.Proofs.Frame.Growth

/-! # First and later values

The first value of a column is decoded by itself, a later one is added to what the column holds. Where
a value decodes to a cell of the type that the column has, adding it puts that cell at the end. A value
that a column refuses is one that cannot be decoded, for the same reason.
-/
namespace ItemStore

namespace GrowingColumn
open Number (Binary64)
open Time (Instant)

/-- A column with one more cell at its end and nothing else changed. -/
structure Takes (c : GrowingColumn) (cell : Cell) (after : GrowingColumn) : Prop where
  name : after.name = c.name
  format : after.format = c.format
  type : after.data.type = c.data.type
  cells : after.data.cells = c.data.cells ++ [some cell]
  diagnostics : after.diagnostics = c.diagnostics

variable {c after : GrowingColumn} {cell : Cell} {failure : Failure}

theorem Step.takes (h : c.Step [] (some cell) after) (htype : after.data.type = c.data.type) :
    c.Takes cell after := by
  obtain ⟨notes, hchange, hnotes⟩ := h.change
  cases hchange with
  | kept type cells => exact ⟨h.name, h.format, type, cells, by simpa using hnotes⟩
  | widened before type cells => simp [before, type] at htype
  | converted before type cells => exact absurd (htype.symm.trans type) before

/-! ### Where the cell fits the column -/

theorem takes_of_cells {data : ColumnData} (type : data.type = c.data.type)
    (cells : data.cells = c.data.cells ++ [some cell]) : c.Takes cell { c with data } :=
  ⟨rfl, rfl, type, cells, rfl⟩

theorem takes_pushText (h : c.data.type = .string) (text : String) :
    c.Takes (.string text) (c.pushText text) := by
  refine (step_pushText c text).takes ?_
  rw [h]
  unfold pushText
  split <;> rfl

theorem takes_pushFloat (h : c.data.type = .float64) (x : Binary64) :
    c.Takes (.float64 x) (c.pushFloat x) := by
  unfold pushFloat
  cases hdata : c.data with
  | float64 values =>
    exact takes_of_cells (by rw [hdata]; rfl) (by simp [hdata, ColumnData.cells])
  | _ => simp [hdata, ColumnData.type] at h

theorem takes_pushJson (h : c.data.type = .json) (json : Json) (text : String) :
    c.Takes (.json json) (c.pushJson json text) := by
  unfold pushJson
  cases hdata : c.data with
  | json values =>
    exact takes_of_cells (by rw [hdata]; rfl) (by simp [hdata, ColumnData.cells])
  | _ => simp [hdata, ColumnData.type] at h

theorem takes_pushInt (hformat : c.format = none) (h : c.data.type = .int64) (i : Int) :
    ∃ after, c.pushInt i = .ok after ∧ c.Takes (.int64 i) after := by
  unfold pushInt
  cases hdata : c.data with
  | int64 values =>
    refine ⟨{ c with data := .int64 (values ++ [some i]) }, by simp [hformat], ?_⟩
    exact takes_of_cells (by rw [hdata]; rfl) (by simp [hdata, ColumnData.cells])
  | _ => simp [hdata, ColumnData.type] at h

theorem takes_pushEpoch {format : TimeFormat} {i : Int} {t : Instant} (hformat : c.format = some format)
    (hread : format.readEpoch i = .ok t) (h : c.data.type = .time) :
    ∃ after, c.pushInt i = .ok after ∧ c.Takes (.time t) after := by
  unfold pushInt
  cases hdata : c.data with
  | time values =>
    refine ⟨{ c with data := .time (values ++ [some t]) }, ?_, ?_⟩
    · cases format with
      | layout hint => cases hread
      | unixSeconds | unixMillis => simp [hformat, hread, bind, Except.bind]
    · exact takes_of_cells (by rw [hdata]; rfl) (by simp [hdata, ColumnData.cells])
  | _ => simp [hdata, ColumnData.type] at h

theorem takes_pushString {hint text : String} {t : Instant} (hformat : c.format = some (.layout hint))
    (hread : (TimeFormat.layout hint).readText text = .ok t) (h : c.data.type = .time) :
    ∃ after, c.pushString text = .ok after ∧ c.Takes (.time t) after := by
  unfold pushString
  cases hdata : c.data with
  | time values =>
    refine ⟨{ c with data := .time (values ++ [some t]) }, ?_, ?_⟩
    · simp [hformat, hread, bind, Except.bind]
    · exact takes_of_cells (by rw [hdata]; rfl) (by simp [hdata, ColumnData.cells])
  | _ => simp [hdata, ColumnData.type] at h

theorem exists_takes {value : Value} (h : Cell.ofValue value c.format = .ok (some cell))
    (htype : cell.type = c.data.type) : ∃ after, c.append value = .ok after ∧ c.Takes cell after := by
  cases value with
  | string s =>
    simp only [Cell.ofValue] at h
    split at h
    · next hint hformat =>
      obtain ⟨t, hread, hcell⟩ := Failure.bind_eq_ok_iff.mp h
      cases hcell
      exact takes_pushString hformat hread htype.symm
    · next hformat =>
      cases h
      have hpush : c.pushString s = .ok (c.pushText s) := by
        unfold pushString
        split
        · next hint values hlayout _ => exact absurd hlayout (hformat hint)
        · rfl
      exact ⟨_, hpush, takes_pushText htype.symm s⟩
  | number n =>
    obtain ⟨number, hnumber, h⟩ := Failure.bind_eq_ok_iff.mp h
    cases number with
    | int i =>
      have happend : c.append (.number n) = c.pushInt i := by
        rw [append, hnumber]
        rfl
      rw [happend]
      cases hformat : c.format with
      | some format =>
        rw [hformat] at h
        obtain ⟨t, hread, hcell⟩ := Failure.bind_eq_ok_iff.mp h
        cases hcell
        exact takes_pushEpoch hformat hread htype.symm
      | none =>
        rw [hformat] at h
        cases h
        exact takes_pushInt hformat htype.symm i
    | float x =>
      have happend : c.append (.number n) = .ok (c.pushFloat x) := by
        rw [append, hnumber]
        rfl
      cases h
      exact ⟨_, happend, takes_pushFloat htype.symm x⟩
  | binary bytes | binarySet items =>
    cases h
    exact ⟨_, rfl, takes_pushText htype.symm _⟩
  | bool b =>
    cases h
    simp only [append]
    cases hdata : c.data with
    | bool values =>
      exact ⟨_, rfl, takes_of_cells (by rw [hdata]; rfl) (by simp [hdata, ColumnData.cells])⟩
    | _ => simp [hdata, ColumnData.type, Cell.type] at htype
  | null => cases h
  | map entries | list items | stringSet items | numberSet items =>
    simp only [Cell.ofValue] at h
    obtain ⟨json, hjson, hcell⟩ := Failure.map_eq_ok_iff.mp h
    cases hcell
    simp only [append, pushComposite, hjson]
    exact ⟨_, rfl, takes_pushJson htype.symm json _⟩

/-! ### Where a column refuses the value -/

theorem pushInt_eq_error {i : Int} (h : c.pushInt i = .error failure) :
    ∃ format, c.format = some format ∧ format.readEpoch i = .error failure := by
  unfold pushInt at h
  split at h
  · next hint _ hformat =>
    cases h
    exact ⟨_, hformat, rfl⟩
  · next format values _ hformat _ =>
    rcases Failure.bind_eq_error_iff.mp h with hread | ⟨t, -, h⟩
    · exact ⟨format, hformat, hread⟩
    · cases h
  · cases h
  · cases h
  · cases h

theorem pushString_eq_error {text : String} (h : c.pushString text = .error failure) :
    ∃ hint, c.format = some (.layout hint) ∧
      (TimeFormat.layout hint).readText text = .error failure := by
  unfold pushString at h
  split at h
  · next hint values hformat _ =>
    rcases Failure.bind_eq_error_iff.mp h with hread | ⟨t, -, h⟩
    · exact ⟨hint, hformat, hread⟩
    · cases h
  · cases h

theorem ofValue_eq_error_of_append {value : Value} (h : c.append value = .error failure) :
    Cell.ofValue value c.format = .error failure := by
  cases value with
  | string s =>
    obtain ⟨hint, hformat, hread⟩ := pushString_eq_error h
    rw [hformat]
    exact Failure.bind_eq_error_iff.mpr (.inl hread)
  | number n =>
    rw [Cell.ofValue, Failure.bind_eq_error_iff]
    rcases Failure.bind_eq_error_iff.mp h with hnumber | ⟨number, hnumber, h⟩
    · exact .inl hnumber
    · refine .inr ⟨number, hnumber, ?_⟩
      cases number with
      | int i =>
        obtain ⟨format, hformat, hread⟩ := pushInt_eq_error h
        rw [hformat]
        exact Failure.bind_eq_error_iff.mpr (.inl hread)
      | float x => cases h
  | bool b =>
    simp only [append] at h
    split at h <;> cases h
  | binary bytes | binarySet items | null | map entries | list items | stringSet items
    | numberSet items => cases h

/-- Adding a value agrees with decoding it. If the value decodes to a cell of the type that the column
has, it is taken, and it puts exactly that cell at the end and changes and notes nothing else. If the
column refuses the value, the value cannot be decoded and the failure is the same, so nothing is
refused that can be decoded. -/
theorem append_agrees (c : GrowingColumn) (value : Value) :
    (∀ cell, Cell.ofValue value c.format = .ok (some cell) → cell.type = c.data.type →
      ∃ after, c.append value = .ok after ∧ c.Takes cell after) ∧
    ∀ failure, c.append value = .error failure → Cell.ofValue value c.format = .error failure :=
  ⟨fun _ h htype => exists_takes h htype, fun _ h => ofValue_eq_error_of_append h⟩

/-- A number that a column of times takes as one, and a number that a layout refuses. -/
theorem append_agrees_on_times :
    let seconds : GrowingColumn := { name := "t", format := some .unixSeconds, data := .time [none] }
    let texts : GrowingColumn := { name := "t", format := some (.layout "%Y"), data := .time [none] }
    (∃ after, seconds.append (.number "60") = .ok after ∧
      seconds.Takes (.time ⟨60, 0⟩) after) ∧
    Cell.ofValue (.number "60") texts.format = .error TimeFormat.numberForLayout := by
  intro seconds texts
  exact ⟨(append_agrees seconds (.number "60")).1 _ rfl rfl,
    (append_agrees texts (.number "60")).2 _ rfl⟩

end GrowingColumn

end ItemStore
