import ItemStore.Proofs.Frame.ColumnRun

/-! # Rejected rows

A row is rejected at the first value that its column refuses, and the values before that one stay.
So the builder is as it was exactly if those values are nulls of attributes without a column. Any
other of them leaves a column longer than the rows that are counted, and one more row does not mend
that.
-/
namespace ItemStore

namespace FrameBuilder
variable {b after : FrameBuilder} {name : String} {value : Value} {row done : Row} {failure : Failure}

theorem pushValues_eq_error_iff :
    b.pushValues row = (.error failure, after) ↔
      ∃ done name value rest, row = done ++ (name, value) :: rest ∧
        b.pushValues done = (.ok (), after) ∧ after.pushValue name value = .error failure := by
  induction row generalizing b with
  | nil => simp [pushValues]
  | cons entry rest ih =>
    obtain ⟨n, v⟩ := entry
    rw [pushValues]
    cases hpush : b.pushValue n v with
    | error cause =>
      constructor
      · intro h
        cases h
        exact ⟨[], n, v, rest, rfl, rfl, hpush⟩
      · rintro ⟨done, name, value, more, hrow, hdone, hvalue⟩
        cases done with
        | nil =>
          cases hrow
          cases hdone
          rw [hpush] at hvalue
          cases hvalue
          rfl
        | cons first done =>
          cases hrow
          obtain ⟨next, hnext, -⟩ := pushValues_cons_eq_ok_iff.mp hdone
          rw [hpush] at hnext
          cases hnext
    | ok next =>
      simp only [ih]
      constructor
      · rintro ⟨done, name, value, more, rfl, hdone, hvalue⟩
        exact ⟨(n, v) :: done, name, value, more, rfl,
          pushValues_cons_eq_ok_iff.mpr ⟨next, hpush, hdone⟩, hvalue⟩
      · rintro ⟨done, name, value, more, hrow, hdone, hvalue⟩
        cases done with
        | nil =>
          cases hrow
          cases hdone
          rw [hpush] at hvalue
          cases hvalue
        | cons first done =>
          cases hrow
          obtain ⟨next', hnext', hdone⟩ := pushValues_cons_eq_ok_iff.mp hdone
          rw [hpush] at hnext'
          cases hnext'
          exact ⟨done, name, value, more, rfl, hdone, hvalue⟩

theorem pushRow_eq_error_iff :
    b.pushRow row = (.error failure, after) ↔ b.pushValues row = (.error failure, after) := by
  rw [pushRow]
  obtain ⟨result, filled⟩ := b.pushValues row
  cases result with
  | error cause => rfl
  | ok _ => simp

def Level (b : FrameBuilder) : Prop := ∀ name c, (name, c) ∈ b.columns → c.size = b.rows

theorem level_iff : b.Level ↔ ∀ column ∈ b.frame.columns, column.data.size = b.frame.rowCount := by
  constructor
  · intro h column hcolumn
    obtain ⟨⟨name, c⟩, hmem, rfl⟩ := List.mem_map.mp hcolumn
    exact h name c hmem
  · intro h name c hmem
    exact h c.column (List.mem_map.mpr ⟨(name, c), hmem, rfl⟩)

theorem level_of_pushRows {title : String} {formats : Entries TimeFormat} {rows : List Row}
    (distinct : ∀ row ∈ rows, row.names.Nodup)
    (h : pushRows { name := title, formats } rows = .ok b) : b.Level := by
  have haligned := (aligned_empty title formats).pushRows distinct h
  rw [level_iff]
  intro column hcolumn
  rw [← ColumnData.length_filled, haligned.filled_of_mem_columns hcolumn, List.length_map]
  exact haligned.count.symm

/-- Values that leave a builder as it is: nulls of attributes that have no column. -/
def Idle (b : FrameBuilder) (done : Row) : Prop :=
  ∀ name value, (name, value) ∈ done → value = .null ∧ b.columns.find? name = none

theorem pushValues_of_idle (h : b.Idle done) : b.pushValues done = (.ok (), b) := by
  induction done with
  | nil => rfl
  | cons entry rest ih =>
    obtain ⟨n, v⟩ := entry
    obtain ⟨rfl, hnone⟩ := h n v List.mem_cons_self
    have hpush : b.pushValue n .null = .ok b := by
      rw [pushValue, hnone]
      rfl
    rw [pushValues_cons_eq_ok_iff]
    exact ⟨b, hpush, ih fun name value hmem => h name value (List.mem_cons_of_mem _ hmem)⟩

/-- A value makes its column one cell longer, or begins it with a cell in the row that is added. -/
theorem size_of_grown {c : GrowingColumn} (h : b.grown name value = .ok (some c)) :
    c.size = (b.columns.find? name).elim b.rows GrowingColumn.size + 1 := by
  rw [grown] at h
  cases hfind : b.columns.find? name with
  | some before =>
    rw [hfind] at h
    obtain ⟨grown, happend, hsome⟩ := Failure.map_eq_ok_iff.mp h
    cases hsome
    exact (GrowingColumn.grows_append happend).size
  | none =>
    rw [hfind] at h
    obtain ⟨cell, -, rfl⟩ := GrowingColumn.start_eq_some_iff.mp h
    exact ColumnData.size_startingWith _ _

theorem exists_grown_of_not_idle (distinct : done.names.Nodup)
    (h : b.pushValues done = (.ok (), after)) (hidle : ¬ b.Idle done) :
    ∃ name c, after.columns.find? name = some c ∧
      c.size = (b.columns.find? name).elim b.rows GrowingColumn.size + 1 := by
  simp only [Idle, not_forall] at hidle
  obtain ⟨name, value, hmem, hkept⟩ := hidle
  have hgrown := (pushValues_spec name distinct h).2.2
  rw [Entries.find?_eq_some_of_mem distinct hmem] at hgrown
  cases hafter : after.columns.find? name with
  | some c =>
    rw [hafter] at hgrown
    exact ⟨name, c, hafter, size_of_grown hgrown⟩
  | none =>
    rw [hafter] at hgrown
    exact absurd (grown_eq_none_iff.mp hgrown) hkept

theorem eq_iff_idle (distinct : done.names.Nodup) (h : b.pushValues done = (.ok (), after)) :
    after = b ↔ b.Idle done := by
  constructor
  · rintro rfl
    by_contra hidle
    obtain ⟨name, c, hc, hsize⟩ := exists_grown_of_not_idle distinct h hidle
    simp [hc] at hsize
  · intro hidle
    rw [pushValues_of_idle hidle] at h
    cases h
    rfl

theorem level_iff_idle (level : b.Level) (distinct : done.names.Nodup)
    (h : b.pushValues done = (.ok (), after)) : after.Level ↔ b.Idle done := by
  constructor
  · intro hlevel
    by_contra hidle
    obtain ⟨name, c, hc, hsize⟩ := exists_grown_of_not_idle distinct h hidle
    have hafter := hlevel name c (Entries.mem_of_find? hc)
    rw [(pushValues_spec name distinct h).1] at hafter
    cases hfind : b.columns.find? name with
    | some before =>
      have hbefore := level name before (Entries.mem_of_find? hfind)
      simp [hfind] at hsize
      omega
    | none =>
      simp [hfind] at hsize
      omega
  · intro hidle
    rwa [(eq_iff_idle distinct h).mpr hidle]

/-- A row is rejected because of its first value that cannot be added, and no row is counted for it.
The values before that one are added. If they are nulls of attributes without a column, the builder is
as it was, and so is everything that is made of it. Otherwise it is not: where every column had a cell
for each row, the frame is another one and some column has a cell too many. -/
theorem pushRow_rejected (distinct : row.names.Nodup)
    (h : b.pushRow row = (.error failure, after)) :
    ∃ done name value rest, row = done ++ (name, value) :: rest ∧
      b.pushValues done = (.ok (), after) ∧ after.pushValue name value = .error failure ∧
      after.rows = b.rows ∧
      (after = b ↔ b.Idle done) ∧
      (b.Level → ((after.frame = b.frame ↔ b.Idle done) ∧ (after.Level ↔ b.Idle done))) := by
  obtain ⟨done, name, value, rest, rfl, hdone, hvalue⟩ :=
    pushValues_eq_error_iff.mp (pushRow_eq_error_iff.mp h)
  rw [Entries.names_append] at distinct
  have hdistinct : done.names.Nodup := distinct.of_append_left
  refine ⟨done, name, value, rest, rfl, hdone, hvalue, (pushValues_spec name hdistinct hdone).1,
    eq_iff_idle hdistinct hdone, fun level => ⟨?_, level_iff_idle level hdistinct hdone⟩⟩
  constructor
  · intro hframe
    rw [← level_iff_idle level hdistinct hdone, level_iff, hframe]
    exact level_iff.mp level
  · intro hidle
    rw [(eq_iff_idle hdistinct hdone).mpr hidle]

/-- A null of an attribute without a column before the value that is refused. -/
theorem pushRow_rejected_of_null :
    let b : FrameBuilder := { name := "A" }
    let row : Row := [("n", .null), ("x", .number "?")]
    row.names.Nodup ∧ b.Level ∧ ∃ failure, b.pushRow row = (.error failure, b) ∧
      ∃ done name value rest, row = done ++ (name, value) :: rest ∧
        b.pushValue name value = .error failure ∧ b.Idle done := by
  intro b row
  have hempty : pushRows { name := "A", formats := [] } [] = .ok b := rfl
  have hlevel : b.Level := level_of_pushRows (by simp) hempty
  obtain ⟨failure, hrow⟩ : ∃ failure, b.pushRow row = (.error failure, b) := ⟨_, rfl⟩
  obtain ⟨done, name, value, rest, hsplit, -, hvalue, -, -, hframes⟩ :=
    pushRow_rejected (by decide) hrow
  exact ⟨by decide, hlevel, failure, hrow, done, name, value, rest, hsplit, hvalue,
    (hframes hlevel).2.mp hlevel⟩

/-- A number that was added before a refused one stays: its column has a cell for a row that is not
counted, and two cells too many behind the next row. -/
theorem pushRow_keeps_cells_of_rejected_row :
    let b : FrameBuilder := { name := "A" }
    let (result, after) := b.pushRow [("a", .number "1"), ("b", .number "x")]
    let (again, later) := after.pushRow [("a", .number "2")]
    result.isOk = false ∧ again.isOk = true ∧
      after ≠ b ∧ after.rows = 0 ∧ after.frame.columns.map (·.data.size) = [1] ∧
      later.rows = 1 ∧ later.frame.columns.map (·.data.size) = [3] := by
  refine ⟨rfl, rfl, ?_, rfl, rfl, rfl, rfl⟩
  intro hsame
  cases congrArg (·.frame.columns.length) hsame

end FrameBuilder

end ItemStore
