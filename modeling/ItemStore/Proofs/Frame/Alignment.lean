import ItemStore.Frame.Builder
import ItemStore.Proofs.Frame.Growth

/-! # Rows and columns of a frame

A frame has one column for each attribute that is somewhere not null, and each column has one cell
for each row: null exactly where the row has no such attribute or a null. The invariant speaks of
the rows that are added and of the leading values of the row that is being added, so that it holds
before and after every single value.
-/
namespace ItemStore

namespace Row

def holds (row : Row) (name : String) : Bool := (Entries.find? row name).any (!·.isNull)

def heldNames (row : Row) : List String := Entries.names (row.filter (!·.2.isNull))

@[simp] theorem heldNames_nil : heldNames [] = [] := rfl

theorem heldNames_concat (row : Row) (name : String) (value : Value) :
    heldNames (row ++ [(name, value)]) = heldNames row ++ if value.isNull then [] else [name] := by
  cases h : value.isNull <;> simp [heldNames, h]

theorem holds_concat {row : Row} {name : String} (value : Value) (other : String)
    (fresh : name ∉ row.names) :
    holds (row ++ [(name, value)]) other = if name = other then !value.isNull else holds row other := by
  rw [holds, Entries.find?_append]
  by_cases h : name = other
  · subst h
    simp [Entries.find?_eq_none_iff.mpr fresh]
  · simp [h, holds]

theorem holds_iff {row : Row} {name : String} :
    holds row name = true ↔ ∃ value, row.find? name = some value ∧ value ≠ .null := by
  cases h : Entries.find? row name with
  | none => simp [holds, h]
  | some value => cases value <;> simp [holds, h, Value.isNull]

theorem holds_eq_false_iff {row : Row} {name : String} :
    holds row name = false ↔ row.find? name = none ∨ row.find? name = some .null := by
  cases h : Entries.find? row name with
  | none => simp [holds, h]
  | some value => cases value <;> simp [holds, h, Value.isNull]

theorem holds_of_mem_heldNames {row : Row} {name : String} (distinct : row.names.Nodup)
    (h : name ∈ heldNames row) : holds row name = true := by
  obtain ⟨⟨n, value⟩, hmem, rfl⟩ := List.mem_map.mp h
  obtain ⟨hrow, hvalue⟩ := List.mem_filter.mp hmem
  simpa [holds, Entries.find?_eq_some_of_mem distinct hrow] using hvalue

theorem mem_heldNames_of_holds {row : Row} {name : String} (h : holds row name = true) :
    name ∈ heldNames row := by
  induction row with
  | nil => simp [holds] at h
  | cons entry rest ih =>
    obtain ⟨n, value⟩ := entry
    by_cases hn : n = name
    · subst hn
      have hvalue : value.isNull = false := by simpa [holds] using h
      simp [heldNames, hvalue]
    · have hrest : name ∈ heldNames rest := ih (by simpa [holds, hn] using h)
      cases hvalue : value.isNull <;> simp_all [heldNames]

end Row

/-- The first occurrence of each element counts. -/
theorem eraseDups_concat (names : List String) (name : String) :
    (names ++ [name]).eraseDups = names.eraseDups ++ if name ∈ names then [] else [name] := by
  rw [List.eraseDups_append]
  by_cases h : name ∈ names <;> simp [List.removeAll, h, List.eraseDups_cons]

namespace FrameBuilder

def withColumn (b : FrameBuilder) (name : String) (c : GrowingColumn) : FrameBuilder :=
  { b with columns := b.columns.put name c }

/-- A value that is added goes to the column of its name, begins one, or is a null that begins
none. -/
theorem pushValue_cases {b after : FrameBuilder} {name : String} {value : Value}
    (h : b.pushValue name value = .ok after) :
    (∃ c grown, b.columns.find? name = some c ∧ c.append value = .ok grown ∧
      after = b.withColumn name grown) ∨
    (b.columns.find? name = none ∧ ∃ cell, Cell.ofValue value (b.formats.find? name) = .ok (some cell) ∧
      after = b.withColumn name ⟨name, b.formats.find? name, .startingWith cell b.rows, []⟩) ∨
    (b.columns.find? name = none ∧ Cell.ofValue value (b.formats.find? name) = .ok none ∧
      after = b) := by
  unfold pushValue at h
  cases hc : b.columns.find? name with
  | some c =>
    cases ha : c.append value with
    | error failure => simp [hc, ha, Except.map] at h
    | ok grown =>
      simp only [hc, ha, Except.map, Except.ok.injEq] at h
      exact .inl ⟨c, grown, rfl, ha, h.symm⟩
  | none =>
    cases hv : Cell.ofValue value (b.formats.find? name) with
    | error failure => simp [hc, hv, GrowingColumn.start, bind, Except.bind] at h
    | ok cell? =>
      simp only [hc, hv, GrowingColumn.start, bind, Except.bind] at h
      cases cell? with
      | none =>
        simp only [Option.map_none, Except.ok.injEq] at h
        exact .inr (.inr ⟨rfl, rfl, h.symm⟩)
      | some cell =>
        simp only [Option.map_some, Except.ok.injEq] at h
        exact .inr (.inl ⟨rfl, cell, rfl, h.symm⟩)

theorem name_pushValues (b : FrameBuilder) (row : Row) : (b.pushValues row).2.name = b.name := by
  induction row generalizing b with
  | nil => rfl
  | cons entry rest ih =>
    rw [pushValues]
    split
    · next after hpush =>
      rw [ih]
      rcases pushValue_cases hpush with ⟨c, grown, -, -, rfl⟩ | ⟨-, cell, -, rfl⟩ | ⟨-, -, rfl⟩ <;> rfl
    · rfl

theorem name_pushRow (b : FrameBuilder) (row : Row) : (b.pushRow row).2.name = b.name := by
  rw [← b.name_pushValues row, pushRow]
  split
  · next h => rw [h]
  · rfl

theorem name_of_pushRows {b after : FrameBuilder} {rows : List Row}
    (h : b.pushRows rows = .ok after) : after.name = b.name := by
  induction rows generalizing b with
  | nil =>
    cases h
    rfl
  | cons row rest ih =>
    have hrow := b.name_pushRow row
    rw [pushRows] at h
    split at h
    · next next hnext =>
      rw [hnext] at hrow
      exact (ih h).trans hrow
    · cases h

/-- Which cells of a column are to be filled once `rows` are there and `done` of the next row. -/
def cellsDue (rows : List Row) (done : Row) (name : String) : List Bool :=
  rows.map (·.holds name) ++ if name ∈ done.names then [done.holds name] else []

theorem cellsDue_fresh (rows : List Row) {done : Row} {name : String} (fresh : name ∉ done.names) :
    cellsDue rows done name = rows.map (·.holds name) := by
  simp [cellsDue, fresh]

theorem cellsDue_concat_self (rows : List Row) {done : Row} {name : String} (value : Value)
    (fresh : name ∉ done.names) :
    cellsDue rows (done ++ [(name, value)]) name = cellsDue rows done name ++ [!value.isNull] := by
  rw [cellsDue_fresh rows fresh, cellsDue, if_pos (by simp), Row.holds_concat value name fresh,
    if_pos rfl]

theorem cellsDue_concat_of_ne (rows : List Row) {done : Row} {name other : String} (value : Value)
    (fresh : name ∉ done.names) (h : name ≠ other) :
    cellsDue rows (done ++ [(name, value)]) other = cellsDue rows done other := by
  have hmem : other ∈ Entries.names (done ++ [(name, value)]) ↔ other ∈ done.names := by
    simp [Ne.symm h]
  simp only [cellsDue, hmem, Row.holds_concat value other fresh, if_neg h]

/-- What holds while a row is added: `rows` are the rows before it and `done` its values so far. A
column has a cell for each row, and for the new row exactly if its attribute was met there. -/
structure Aligned (b : FrameBuilder) (rows : List Row) (done : Row) : Prop where
  count : b.rows = rows.length
  names : b.columns.names = (rows.flatMap Row.heldNames ++ done.heldNames).eraseDups
  nodup : b.columns.names.Nodup
  column : ∀ name c, b.columns.find? name = some c →
    c.name = name ∧ c.data.filled = cellsDue rows done name

namespace Aligned
variable {b after : FrameBuilder} {rows : List Row} {done : Row} {name : String} {value : Value}

theorem map_holds_of_find?_eq_none (h : b.Aligned rows done) (hnone : b.columns.find? name = none) :
    rows.map (·.holds name) = List.replicate rows.length false := by
  rw [Entries.find?_eq_none_iff, h.names, List.mem_eraseDups] at hnone
  rw [List.eq_replicate_iff]
  refine ⟨List.length_map _, ?_⟩
  intro held hheld
  obtain ⟨row, hrow, rfl⟩ := List.mem_map.mp hheld
  apply Bool.eq_false_iff.mpr
  intro hholds
  refine hnone (List.mem_append_left _ (List.mem_flatMap.mpr ⟨row, hrow, ?_⟩))
  exact Row.mem_heldNames_of_holds hholds

/-- The names after one more value: a name is added if it is new and the value is not null. -/
theorem names_concat (h : b.Aligned rows done) (name : String) (value : Value) :
    (rows.flatMap Row.heldNames ++ Row.heldNames (done ++ [(name, value)])).eraseDups =
      b.columns.names ++ if value.isNull ∨ name ∈ b.columns.names then [] else [name] := by
  rw [Row.heldNames_concat, ← List.append_assoc]
  cases hvalue : value.isNull with
  | true => simp [h.names]
  | false =>
    simp only [Bool.false_eq_true, if_false, false_or, h.names, List.mem_eraseDups]
    exact eraseDups_concat _ name

theorem withColumn (h : b.Aligned rows done) (fresh : name ∉ done.names) {c : GrowingColumn}
    (hname : c.name = name)
    (hfilled : c.data.filled = rows.map (·.holds name) ++ [!value.isNull])
    (hnames : (b.columns.put name c).names =
      b.columns.names ++ if value.isNull ∨ name ∈ b.columns.names then [] else [name]) :
    (b.withColumn name c).Aligned rows (done ++ [(name, value)]) where
  count := h.count
  names := hnames.trans (h.names_concat name value).symm
  nodup := Entries.nodup_put name c h.nodup
  column other found hfound := by
    rw [FrameBuilder.withColumn, Entries.find?_put] at hfound
    by_cases hother : name = other
    · subst hother
      rw [if_pos rfl, Option.some.injEq] at hfound
      subst hfound
      exact ⟨hname, by rw [hfilled, cellsDue_concat_self rows value fresh, cellsDue_fresh rows fresh]⟩
    · rw [if_neg hother] at hfound
      rw [cellsDue_concat_of_ne rows value fresh hother]
      exact h.column other found hfound

theorem pushValue (h : b.Aligned rows done) (fresh : name ∉ done.names)
    (hpush : b.pushValue name value = .ok after) :
    after.Aligned rows (done ++ [(name, value)]) := by
  rcases pushValue_cases hpush with ⟨c, grown, hc, hgrown, rfl⟩ | ⟨hnone, cell, hcell, rfl⟩ |
    ⟨hnone, hcell, rfl⟩
  · have hgrows := GrowingColumn.grows_append hgrown
    obtain ⟨hname, hfilled⟩ := h.column name c hc
    have hmem : name ∈ b.columns.names := Entries.mem_names_of_find? hc
    refine h.withColumn fresh (hgrows.name.trans hname) ?_ ?_
    · rw [hgrows.filled, hfilled, cellsDue_fresh rows fresh]
    · rw [Entries.names_put_of_mem grown hmem]
      simp [hmem]
  · have hvalue : value.isNull = false := (Cell.isNone_of_ofValue hcell).symm
    have hmem : name ∉ b.columns.names := Entries.find?_eq_none_iff.mp hnone
    refine h.withColumn fresh rfl ?_ ?_
    · simp [h.map_holds_of_find?_eq_none hnone, h.count, hvalue]
    · rw [Entries.names_put_of_not_mem _ hmem]
      simp [hmem, hvalue]
  · have hvalue : value.isNull = true := (Cell.isNone_of_ofValue hcell).symm
    refine ⟨h.count, ?_, h.nodup, ?_⟩
    · rw [h.names_concat, hvalue]
      simp
    · intro other c hc
      have hother : name ≠ other := by
        rintro rfl
        simp [hnone] at hc
      rw [cellsDue_concat_of_ne rows value fresh hother]
      exact h.column other c hc

theorem pushValues {rest : Row} (h : b.Aligned rows done) (distinct : (done ++ rest).names.Nodup)
    (hpush : b.pushValues rest = (.ok (), after)) : after.Aligned rows (done ++ rest) := by
  induction rest generalizing b done with
  | nil =>
    cases hpush
    simpa using h
  | cons entry rest ih =>
    obtain ⟨name, value⟩ := entry
    have hassoc : done ++ (name, value) :: rest = (done ++ [(name, value)]) ++ rest := by simp
    have fresh : name ∉ done.names := by
      intro hmem
      rw [Entries.names_append, List.nodup_append] at distinct
      exact distinct.2.2 name hmem name (by simp) rfl
    rw [FrameBuilder.pushValues] at hpush
    split at hpush
    · next next hnext =>
      rw [hassoc] at distinct ⊢
      exact ih (h.pushValue fresh hnext) distinct hpush
    · cases hpush

/-- A column that the row did not reach takes a null, and no other column does. -/
theorem filled_level (h : b.Aligned rows done) {c : GrowingColumn}
    (hc : b.columns.find? name = some c) :
    (level b.rows c).name = name ∧
      (level b.rows c).data.filled = (rows ++ [done]).map (·.holds name) := by
  obtain ⟨hname, hfilled⟩ := h.column name c hc
  have hsize : c.size = (cellsDue rows done name).length := by
    rw [← hfilled, ColumnData.length_filled]
    rfl
  unfold level
  by_cases hmem : name ∈ done.names
  · rw [if_neg (by simp [hsize, cellsDue, hmem, h.count])]
    exact ⟨hname, by simp [hfilled, cellsDue, hmem]⟩
  · rw [if_pos (by simp [hsize, cellsDue, hmem, h.count])]
    have hholds : done.holds name = false := by
      simp [Row.holds, Entries.find?_eq_none_iff.mpr hmem]
    refine ⟨(c.grows_pad.name).trans hname, ?_⟩
    rw [c.grows_pad.filled, hfilled, cellsDue_fresh rows hmem]
    simp [hholds]

theorem pushRow {row : Row} (h : b.Aligned rows []) (distinct : row.names.Nodup)
    (hpush : b.pushRow row = (.ok (), after)) : after.Aligned (rows ++ [row]) [] := by
  rw [FrameBuilder.pushRow] at hpush
  split at hpush
  · next filledRow hvalues =>
    cases hpush
    have hrow : filledRow.Aligned rows row := by simpa using h.pushValues (by simpa) hvalues
    refine ⟨by simp [hrow.count], ?_, ?_, ?_⟩
    · simp [names_level, hrow.names]
    · simpa [names_level] using hrow.nodup
    · intro name c hc
      rw [Entries.find?_map] at hc
      obtain ⟨before, hbefore, rfl⟩ := Option.map_eq_some_iff.mp hc
      simpa [cellsDue] using hrow.filled_level hbefore
  · next hfailed =>
    exact absurd hpush (hfailed _)

theorem pushRows {more : List Row} (h : b.Aligned rows []) (distinct : ∀ row ∈ more, row.names.Nodup)
    (hpush : b.pushRows more = .ok after) : after.Aligned (rows ++ more) [] := by
  induction more generalizing b rows with
  | nil =>
    cases hpush
    simpa using h
  | cons row more ih =>
    rw [FrameBuilder.pushRows] at hpush
    split at hpush
    · next next hnext =>
      have hrow := h.pushRow (distinct row (by simp)) hnext
      simpa using ih hrow (fun other hother => distinct other (by simp [hother])) hpush
    · cases hpush

theorem columnNames_frame (h : b.Aligned rows []) : b.frame.columnNames = b.columns.names := by
  rw [Frame.columnNames, FrameBuilder.frame, List.map_map, Entries.names]
  apply List.map_congr_left
  rintro ⟨name, c⟩ hmem
  exact (h.column name c (Entries.find?_eq_some_of_mem h.nodup hmem)).1

/-- A column of the frame has the name under which it grew, and a filled cell where its attribute
is held. -/
theorem filled_of_mem_columns (h : b.Aligned rows []) {column : Column}
    (hmem : column ∈ b.frame.columns) :
    column.data.filled = rows.map (·.holds column.name) := by
  obtain ⟨⟨name, c⟩, hentry, rfl⟩ := List.mem_map.mp hmem
  obtain ⟨hname, hfilled⟩ := h.column name c (Entries.find?_eq_some_of_mem h.nodup hentry)
  change c.data.filled = rows.map (·.holds c.name)
  rw [hname, hfilled, cellsDue_fresh rows List.not_mem_nil]

end Aligned

theorem aligned_empty (name : String) (formats : Entries TimeFormat) :
    Aligned { name, formats } [] [] :=
  ⟨rfl, rfl, List.nodup_nil, fun _ _ h => by cases h⟩

end FrameBuilder

namespace Frame
variable {name : String} {rows : List Row} {formats : Entries TimeFormat} {frame : Frame}

theorem name_of_ofRows (h : Frame.ofRows name rows formats = .ok frame) : frame.name = name := by
  obtain ⟨b, hb, rfl⟩ := Failure.map_eq_ok_iff.mp h
  exact FrameBuilder.name_of_pushRows hb

theorem exists_aligned_of_ofRows (distinct : ∀ row ∈ rows, row.names.Nodup)
    (h : Frame.ofRows name rows formats = .ok frame) :
    ∃ b : FrameBuilder, b.Aligned rows [] ∧ frame = b.frame := by
  obtain ⟨b, hb, rfl⟩ := Failure.map_eq_ok_iff.mp h
  exact ⟨b, (FrameBuilder.aligned_empty name formats).pushRows distinct hb, rfl⟩

/-- A frame has a cell for each row in each column. Its columns are the attributes that some row
holds, each once and in the order in which they are first held, and a cell is null exactly where the
row has no such attribute or a null. Widened, converted and replaced cells are no exception. -/
theorem ofRows_aligned (distinct : ∀ row ∈ rows, row.names.Nodup)
    (h : Frame.ofRows name rows formats = .ok frame) :
    frame.rowCount = rows.length ∧
    (∀ column ∈ frame.columns, column.data.size = frame.rowCount) ∧
    frame.columnNames.Nodup ∧
    (∀ field, field ∈ frame.columnNames ↔
      ∃ row ∈ rows, ∃ value, row.find? field = some value ∧ value ≠ .null) ∧
    frame.columnNames = (rows.flatMap Row.heldNames).eraseDups ∧
    ∀ column ∈ frame.columns, ∀ (r : Nat) (row : Row), rows[r]? = some row →
      (column.data.isNull r = true ↔
        row.find? column.name = none ∨ row.find? column.name = some .null) := by
  obtain ⟨b, hb, rfl⟩ := exists_aligned_of_ofRows distinct h
  have hcount : b.frame.rowCount = rows.length := hb.count
  have hnames : b.frame.columnNames = (rows.flatMap Row.heldNames).eraseDups := by
    rw [hb.columnNames_frame, hb.names, Row.heldNames_nil, List.append_nil]
  refine ⟨hcount, ?_, ?_, ?_, hnames, ?_⟩
  · intro column hcolumn
    rw [hcount, ← ColumnData.length_filled, hb.filled_of_mem_columns hcolumn, List.length_map]
  · rw [hb.columnNames_frame]
    exact hb.nodup
  · intro field
    rw [hnames, List.mem_eraseDups, List.mem_flatMap]
    constructor
    · rintro ⟨row, hrow, hheld⟩
      exact ⟨row, hrow, Row.holds_iff.mp (Row.holds_of_mem_heldNames (distinct row hrow) hheld)⟩
    · rintro ⟨row, hrow, hheld⟩
      exact ⟨row, hrow, Row.mem_heldNames_of_holds (Row.holds_iff.mpr hheld)⟩
  · intro column hcolumn r row hrow
    have hfilled : column.data.filled[r]? = some (row.holds column.name) := by
      rw [hb.filled_of_mem_columns hcolumn, List.getElem?_map, hrow]
      rfl
    rw [ColumnData.isNull_eq_of_filled hfilled, Bool.not_eq_true']
    exact Row.holds_eq_false_iff

/-- A column that begins late, one that is widened and one that is converted to text. -/
theorem ofRows_aligned_of_mixed_values : ∃ frame,
    Frame.ofRows "A" [
      [("n", .number "1"), ("late", .null)],
      [("late", .bool true), ("n", .number "1.5")],
      [("late", .string "x")]] [] = .ok frame ∧
    frame.rowCount = 3 ∧ (∀ column ∈ frame.columns, column.data.size = 3) ∧
    frame.columnNames = ["n", "late"] := by
  refine Exists.imp (fun frame h => ⟨h, ?_⟩) ⟨_, rfl⟩
  obtain ⟨hcount, hsize, -, -, hnames, -⟩ := ofRows_aligned (by decide) h
  exact ⟨hcount, fun column hcolumn => (hsize column hcolumn).trans hcount, hnames⟩

end Frame

end ItemStore
