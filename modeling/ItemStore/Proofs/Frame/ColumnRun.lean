import ItemStore.Proofs.Frame.ColumnIndependence

/-! # The run of one column

The column of an attribute is what the values of the attribute make of it, row by row. So what its
first value brings about, and every later value and every missing one keeps, holds of the column of
every frame.
-/
namespace ItemStore

/-- The attribute has no value there that would begin a column. -/
def Absent (value : Option Value) : Prop := value = none ∨ value = some .null

namespace GrowingColumn

/-- A column that grew by the values of an attribute, one for each row, where a row may have none. -/
inductive Run (name : String) (format : Option TimeFormat) : List (Option Value) → GrowingColumn → Prop
  | start {before : List (Option Value)} {value : Value} {c : GrowingColumn}
      (absent : ∀ v ∈ before, Absent v)
      (h : GrowingColumn.start before.length name value format = .ok (some c)) :
      Run name format (before ++ [some value]) c
  | append {values : List (Option Value)} {value : Value} {c after : GrowingColumn}
      (run : Run name format values c) (h : c.append value = .ok after) :
      Run name format (values ++ [some value]) after
  | pad {values : List (Option Value)} {c : GrowingColumn} (run : Run name format values c) :
      Run name format (values ++ [none]) c.pad

variable {name : String} {format : Option TimeFormat} {values : List (Option Value)}
  {c : GrowingColumn}

theorem start_eq_some_iff {row : Nat} {value : Value} :
    GrowingColumn.start row name value format = .ok (some c) ↔
      ∃ cell, Cell.ofValue value format = .ok (some cell) ∧
        c = ⟨name, format, .startingWith cell row, []⟩ := by
  rw [GrowingColumn.start]
  cases Cell.ofValue value format with
  | error failure => simp [bind, Except.bind]
  | ok cell => cases cell <;> simp [bind, Except.bind, eq_comm]

theorem start_eq_none_iff {row : Nat} {value : Value} :
    GrowingColumn.start row name value format = .ok none ↔ value = .null := by
  constructor
  · intro h
    rw [GrowingColumn.start] at h
    obtain ⟨cell, hcell, h⟩ := Failure.bind_eq_ok_iff.mp h
    have hnone : cell = none := by simpa using h
    have hnull := Cell.isNone_of_ofValue hcell
    rw [hnone] at hnull
    cases value with
    | null => rfl
    | _ => cases hnull
  · rintro rfl
    rfl

namespace Run

theorem size (h : Run name format values c) : c.size = values.length := by
  induction h with
  | start absent h =>
    obtain ⟨cell, -, rfl⟩ := start_eq_some_iff.mp h
    simp [GrowingColumn.size, ColumnData.size_startingWith]
  | append run h ih =>
    rw [(grows_append h).size, ih]
    simp
  | pad run ih =>
    rw [(grows_pad _).size, ih]
    simp

theorem named (h : Run name format values c) : c.name = name ∧ c.format = format := by
  induction h with
  | start absent h =>
    obtain ⟨cell, -, rfl⟩ := start_eq_some_iff.mp h
    exact ⟨rfl, rfl⟩
  | append run h ih => exact ⟨(grows_append h).name.trans ih.1, (grows_append h).format.trans ih.2⟩
  | pad run ih => exact ih

end Run

end GrowingColumn

namespace FrameBuilder
open GrowingColumn (Run)
variable {b after : FrameBuilder} {name other : String} {format : Option TimeFormat}
  {values : List (Option Value)} {row : Row} {rows : List Row}

/-- The builder took those values of an attribute: its column grew by them, or there is none yet. -/
structure Follows (b : FrameBuilder) (name : String) (format : Option TimeFormat)
    (values : List (Option Value)) : Prop where
  count : b.rows = values.length
  hint : b.formats.find? name = format
  column : ∀ c, b.columns.find? name = some c → Run name format values c
  absent : b.columns.find? name = none → ∀ v ∈ values, Absent v

theorem grown_of_pushValue {value : Value} (h : b.pushValue name value = .ok after) :
    b.grown name value = .ok (after.columns.find? name) := by
  rcases pushValue_cases h with ⟨c, grown, hc, hgrown, rfl⟩ | ⟨hnone, cell, hcell, rfl⟩ |
    ⟨hnone, hcell, rfl⟩
  · simp [FrameBuilder.grown, hc, hgrown, withColumn, Entries.find?_put, Except.map]
  · simp [FrameBuilder.grown, hnone, GrowingColumn.start, hcell, withColumn, Entries.find?_put, bind,
      Except.bind]
  · simp [FrameBuilder.grown, hnone, GrowingColumn.start, hcell, bind, Except.bind]

theorem grown_eq_none_iff {value : Value} :
    b.grown name value = .ok none ↔ value = .null ∧ b.columns.find? name = none := by
  rw [FrameBuilder.grown]
  cases b.columns.find? name with
  | some c => simp [Failure.map_eq_ok_iff]
  | none => simp [GrowingColumn.start_eq_none_iff]

theorem find?_of_pushValue {value : Value} (h : b.pushValue name value = .ok after)
    (hne : name ≠ other) : after.columns.find? other = b.columns.find? other := by
  rcases pushValue_cases h with ⟨c, grown, -, -, rfl⟩ | ⟨-, cell, -, rfl⟩ | ⟨-, -, rfl⟩
  · simp [withColumn, Entries.find?_put, hne]
  · simp [withColumn, Entries.find?_put, hne]
  · rfl

theorem frame_of_pushValue {value : Value} (h : b.pushValue name value = .ok after) :
    after.rows = b.rows ∧ after.formats = b.formats := by
  rcases pushValue_cases h with ⟨c, grown, -, -, rfl⟩ | ⟨-, cell, -, rfl⟩ | ⟨-, -, rfl⟩ <;>
    exact ⟨rfl, rfl⟩

theorem pushValues_spec (name : String) (distinct : row.names.Nodup)
    (h : b.pushValues row = (.ok (), after)) :
    after.rows = b.rows ∧ after.formats = b.formats ∧
      match row.find? name with
      | none => after.columns.find? name = b.columns.find? name
      | some value => b.grown name value = .ok (after.columns.find? name) := by
  induction row generalizing b with
  | nil =>
    cases h
    exact ⟨rfl, rfl, rfl⟩
  | cons entry rest ih =>
    obtain ⟨n, value⟩ := entry
    obtain ⟨fresh, distinct⟩ := List.nodup_cons.mp distinct
    obtain ⟨next, hnext, hrest⟩ := pushValues_cons_eq_ok_iff.mp h
    obtain ⟨hrows, hformats⟩ := frame_of_pushValue hnext
    obtain ⟨ihrows, ihformats, ihcolumn⟩ := ih distinct hrest
    refine ⟨ihrows.trans hrows, ihformats.trans hformats, ?_⟩
    rw [Entries.find?_cons]
    by_cases hn : n = name
    · subst hn
      rw [Entries.find?_eq_none_iff.mpr fresh] at ihcolumn
      rw [if_pos rfl, ihcolumn]
      exact grown_of_pushValue hnext
    · rw [if_neg hn]
      cases hfind : Entries.find? rest name with
      | none =>
        rw [hfind] at ihcolumn
        exact ihcolumn.trans (find?_of_pushValue hnext hn)
      | some v =>
        rw [hfind] at ihcolumn
        simpa only [FrameBuilder.grown, find?_of_pushValue hnext hn, hrows, hformats] using ihcolumn

namespace Follows

theorem run_of_grown (h : b.Follows name format values) {value : Value} {c : GrowingColumn}
    (hgrown : b.grown name value = .ok (some c)) : Run name format (values ++ [some value]) c := by
  rw [FrameBuilder.grown] at hgrown
  cases hfind : b.columns.find? name with
  | some before =>
    simp only [hfind] at hgrown
    obtain ⟨grown, happend, hsome⟩ := Failure.map_eq_ok_iff.mp hgrown
    cases hsome
    exact (h.column before hfind).append happend
  | none =>
    simp only [hfind, h.count, h.hint] at hgrown
    exact .start (h.absent hfind) hgrown

theorem absent_of_grown (h : b.Follows name format values) {value : Value}
    (hgrown : b.grown name value = .ok none) : ∀ v ∈ values ++ [some value], Absent v := by
  obtain ⟨rfl, hfind⟩ := grown_eq_none_iff.mp hgrown
  intro v hv
  rcases List.mem_append.mp hv with hv | hv
  · exact h.absent hfind v hv
  · exact .inr (List.mem_singleton.mp hv)

theorem pushRow (h : b.Follows name format values) (distinct : row.names.Nodup)
    (hpush : b.pushRow row = (.ok (), after)) :
    after.Follows name format (values ++ [row.find? name]) := by
  obtain ⟨filled, hfilled, rfl⟩ := pushRow_eq_ok_iff.mp hpush
  obtain ⟨hrows, hformats, hcolumn⟩ := pushValues_spec name distinct hfilled
  have hcount : filled.rows = values.length := hrows.trans h.count
  have hfind : filled.endRow.columns.find? name =
      (filled.columns.find? name).map (level filled.rows) := Entries.find?_map _ _ _
  -- A column that took the value ends with the row, one that did not is a cell short of it.
  have hlevel {c : GrowingColumn} {value : Value}
      (hrun : Run name format (values ++ [some value]) c) : level filled.rows c = c := by
    rw [level, if_neg]
    simp [hrun.size, hcount]
  have hpad {c : GrowingColumn} (hrun : Run name format values c) : level filled.rows c = c.pad := by
    rw [level, if_pos]
    simp [hrun.size, hcount]
  refine ⟨by simp [FrameBuilder.endRow, hcount], ?_, ?_, ?_⟩
  · rw [← h.hint, ← hformats]
    rfl
  · intro c hc
    rw [hfind] at hc
    obtain ⟨before, hbefore, rfl⟩ := Option.map_eq_some_iff.mp hc
    cases hvalue : row.find? name with
    | none =>
      simp only [hvalue, hbefore] at hcolumn
      have hrun := h.column before hcolumn.symm
      rw [hpad hrun]
      exact hrun.pad
    | some value =>
      simp only [hvalue, hbefore] at hcolumn
      have hrun := h.run_of_grown hcolumn
      rwa [hlevel hrun]
  · intro hnone
    rw [hfind, Option.map_eq_none_iff] at hnone
    cases hvalue : row.find? name with
    | none =>
      simp only [hvalue, hnone] at hcolumn
      intro v hv
      rcases List.mem_append.mp hv with hv | hv
      · exact h.absent hcolumn.symm v hv
      · exact .inl (List.mem_singleton.mp hv)
    | some value =>
      simp only [hvalue, hnone] at hcolumn
      exact h.absent_of_grown hcolumn

theorem pushRows (h : b.Follows name format values) (distinct : ∀ row ∈ rows, row.names.Nodup)
    (hpush : b.pushRows rows = .ok after) :
    after.Follows name format (values ++ rows.map (·.find? name)) := by
  induction rows generalizing b values with
  | nil =>
    cases hpush
    simpa using h
  | cons row rest ih =>
    obtain ⟨next, hnext, hrest⟩ := pushRows_cons_eq_ok_iff.mp hpush
    have hrow := h.pushRow (distinct row List.mem_cons_self) hnext
    simpa using ih hrow (fun other hother => distinct other (List.mem_cons_of_mem _ hother)) hrest

end Follows

theorem follows_empty (title : String) (formats : Entries TimeFormat) (name : String) :
    Follows { name := title, formats } name (formats.find? name) [] where
  count := rfl
  hint := rfl
  column c h := by cases h
  absent _ v h := by cases h

end FrameBuilder

namespace Frame
variable {name field : String} {rows : List Row} {formats : Entries TimeFormat} {frame : Frame}
  {column : Column}

/-- A column of a frame grew by the values of its attribute, and its diagnostics are what it noted. -/
theorem exists_run_of_column? (distinct : ∀ row ∈ rows, row.names.Nodup)
    (h : Frame.ofRows name rows formats = .ok frame) (hcolumn : frame.column? field = some column) :
    ∃ c, GrowingColumn.Run field (formats.find? field) (rows.map (·.find? field)) c ∧
      c.column = column ∧ c.diagnostics = frame.diagnosticsOf field := by
  obtain ⟨b, hb, rfl⟩ := Failure.map_eq_ok_iff.mp h
  have haligned := (FrameBuilder.aligned_empty name formats).pushRows distinct hb
  have hnamed : b.Named := FrameBuilder.Named.pushRows (fun _ _ hmem => by cases hmem) hb
  have hfollows := (FrameBuilder.follows_empty name formats field).pushRows distinct hb
  rw [hnamed.column?_frame] at hcolumn
  obtain ⟨c, hc, rfl⟩ := Option.map_eq_some_iff.mp hcolumn
  refine ⟨c, by simpa using hfollows.column c hc, rfl, ?_⟩
  rw [diagnosticsOf, ← hnamed.diagnostics_only, FrameBuilder.frame, FrameBuilder.only,
    Entries.only_eq_toList haligned.nodup, hc]
  simp

end Frame

end ItemStore
