import ItemStore.Proofs.Entries
import ItemStore.Proofs.Frame.Alignment
import Mathlib.Data.List.Forall2

/-! # Columns are independent

What a column holds depends on the values of its own attribute alone. A builder that is cut down to
one column takes the values of that attribute as the whole builder does, and values of another
attribute do not touch it. So a frame can be told from the frames of its single attributes: it can
be built exactly if all of them can, and each of its columns is the one of its attribute alone.
-/
namespace ItemStore

namespace FrameBuilder
variable {b after : FrameBuilder} {name other : String} {row : Row} {rows : List Row}

def only (b : FrameBuilder) (name : String) : FrameBuilder :=
  { b with columns := b.columns.only name }

def grown (b : FrameBuilder) (name : String) (value : Value) : Except Failure (Option GrowingColumn) :=
  match b.columns.find? name with
  | some c => (c.append value).map some
  | none => GrowingColumn.start b.rows name value (b.formats.find? name)

theorem pushValue_eq (b : FrameBuilder) (name : String) (value : Value) :
    b.pushValue name value =
      ((b.grown name value).map fun c => c.elim b (b.withColumn name)).mapError fun failure =>
        failure.inContext
          ("attribute " ++ name ++ " at row " ++ String.ofList (Number.natText b.rows)) := by
  unfold pushValue grown
  cases b.columns.find? name with
  | some c =>
    cases hadded : c.append value with
    | error failure => simp [hadded, Except.map, Except.mapError]
    | ok c => simp [hadded, Except.map, Except.mapError, withColumn]
  | none =>
    cases GrowingColumn.start b.rows name value (b.formats.find? name) with
    | error failure => simp [Except.map, Except.mapError]
    | ok started =>
      cases started with
      | none => simp [Except.map, Except.mapError]
      | some c => simp [Except.map, Except.mapError, withColumn]

/-- A value of the attribute that is kept does to the column what it does in the whole builder. -/
theorem pushValue_only (b : FrameBuilder) (name : String) (value : Value) :
    (b.only name).pushValue name value = (b.pushValue name value).map (·.only name) := by
  have hgrown : (b.only name).grown name value = b.grown name value := by
    simp only [grown, only, Entries.find?_only]
  have hcolumn (c : GrowingColumn) :
      (b.only name).withColumn name c = (b.withColumn name c).only name := by
    simp only [only, withColumn, Entries.only_put_self]
  rw [pushValue_eq, pushValue_eq, hgrown]
  cases b.grown name value with
  | error failure => rfl
  | ok c =>
    cases c with
    | none => rfl
    | some c => exact congrArg Except.ok (hcolumn c)

theorem only_of_pushValue {value : Value} (h : b.pushValue name value = .ok after)
    (hne : name ≠ other) : after.only other = b.only other := by
  rcases pushValue_cases h with ⟨c, grown, -, -, rfl⟩ | ⟨-, cell, -, rfl⟩ | ⟨-, -, rfl⟩
  · simp [only, withColumn, Entries.only_put_of_ne _ _ hne]
  · simp [only, withColumn, Entries.only_put_of_ne _ _ hne]
  · rfl

theorem pushValues_cons_eq_ok_iff {value : Value} {rest : Row} :
    b.pushValues ((name, value) :: rest) = (.ok (), after) ↔
      ∃ next, b.pushValue name value = .ok next ∧ next.pushValues rest = (.ok (), after) := by
  rw [pushValues]
  cases b.pushValue name value with
  | error failure => simp
  | ok next => simp

theorem pushValues_only (h : b.pushValues row = (.ok (), after)) (name : String) :
    (b.only name).pushValues (Entries.only row name) = (.ok (), after.only name) := by
  induction row generalizing b with
  | nil =>
    cases h
    rfl
  | cons entry rest ih =>
    obtain ⟨n, value⟩ := entry
    obtain ⟨next, hnext, hrest⟩ := pushValues_cons_eq_ok_iff.mp h
    by_cases hn : n = name
    · subst hn
      have honly : Entries.only ((n, value) :: rest) n = (n, value) :: Entries.only rest n := by
        simp [Entries.only]
      rw [honly, pushValues_cons_eq_ok_iff]
      refine ⟨next.only n, ?_, ih hrest⟩
      rw [pushValue_only, hnext]
      rfl
    · have honly : Entries.only ((n, value) :: rest) name = Entries.only rest name := by
        simp [Entries.only, hn]
      rw [honly, ← only_of_pushValue hnext hn]
      exact ih hrest

/-- A row is taken if the value of each of its attributes is taken alone. -/
theorem exists_pushValues_of_only
    (h : ∀ name, ∃ after, (b.only name).pushValues (Entries.only row name) = (.ok (), after)) :
    ∃ after, b.pushValues row = (.ok (), after) := by
  induction row generalizing b with
  | nil => exact ⟨b, rfl⟩
  | cons entry rest ih =>
    obtain ⟨n, value⟩ := entry
    obtain ⟨last, hlast⟩ := h n
    have honly : Entries.only ((n, value) :: rest) n = (n, value) :: Entries.only rest n := by
      simp [Entries.only]
    rw [honly, pushValues_cons_eq_ok_iff, pushValue_only] at hlast
    obtain ⟨alone, halone, hrest⟩ := hlast
    obtain ⟨next, hnext, rfl⟩ := Failure.map_eq_ok_iff.mp halone
    obtain ⟨after, hafter⟩ := ih (b := next) (by
      intro name
      by_cases hn : n = name
      · subst hn
        exact ⟨last, hrest⟩
      · rw [only_of_pushValue hnext hn]
        simpa [Entries.only, hn] using h name)
    exact ⟨after, pushValues_cons_eq_ok_iff.mpr ⟨next, hnext, hafter⟩⟩

def endRow (b : FrameBuilder) : FrameBuilder :=
  { b with columns := b.columns.map (fun (name, c) => (name, level b.rows c)), rows := b.rows + 1 }

theorem only_endRow (b : FrameBuilder) (name : String) :
    b.endRow.only name = (b.only name).endRow := by
  simp only [only, endRow, Entries.only_map]

theorem pushRow_eq_ok_iff :
    b.pushRow row = (.ok (), after) ↔
      ∃ filled, b.pushValues row = (.ok (), filled) ∧ filled.endRow = after := by
  rw [pushRow]
  obtain ⟨result, filled⟩ := b.pushValues row
  cases result with
  | error failure => simp
  | ok _ => simp [endRow]

theorem pushRows_cons_eq_ok_iff :
    b.pushRows (row :: rows) = .ok after ↔
      ∃ next, b.pushRow row = (.ok (), next) ∧ next.pushRows rows = .ok after := by
  rw [pushRows]
  obtain ⟨result, next⟩ := b.pushRow row
  cases result with
  | error failure => simp
  | ok _ => simp

/-- One column grows in the whole builder as it grows alone. -/
theorem pushRows_only (h : b.pushRows rows = .ok after) (name : String) :
    (b.only name).pushRows (rows.map (Entries.only · name)) = .ok (after.only name) := by
  induction rows generalizing b with
  | nil =>
    cases h
    rfl
  | cons row rest ih =>
    obtain ⟨next, hnext, hrest⟩ := pushRows_cons_eq_ok_iff.mp h
    obtain ⟨filled, hfilled, rfl⟩ := pushRow_eq_ok_iff.mp hnext
    rw [List.map_cons, pushRows_cons_eq_ok_iff]
    refine ⟨(filled.only name).endRow, ?_, ?_⟩
    · exact pushRow_eq_ok_iff.mpr ⟨filled.only name, pushValues_only hfilled name, rfl⟩
    · rw [← only_endRow]
      exact ih hrest

theorem exists_pushRows_of_only
    (h : ∀ name, ∃ after, (b.only name).pushRows (rows.map (Entries.only · name)) = .ok after) :
    ∃ after, b.pushRows rows = .ok after := by
  induction rows generalizing b with
  | nil => exact ⟨b, rfl⟩
  | cons row rest ih =>
    have hstep (name : String) : ∃ alone last,
        (b.only name).pushValues (Entries.only row name) = (.ok (), alone) ∧
          alone.endRow.pushRows (rest.map (Entries.only · name)) = .ok last := by
      obtain ⟨last, hlast⟩ := h name
      rw [List.map_cons, pushRows_cons_eq_ok_iff] at hlast
      obtain ⟨next, hnext, hrest⟩ := hlast
      obtain ⟨alone, halone, rfl⟩ := pushRow_eq_ok_iff.mp hnext
      exact ⟨alone, last, halone, hrest⟩
    obtain ⟨filled, hfilled⟩ : ∃ filled, b.pushValues row = (.ok (), filled) := by
      apply exists_pushValues_of_only
      intro name
      obtain ⟨alone, -, halone, -⟩ := hstep name
      exact ⟨alone, halone⟩
    obtain ⟨after, hafter⟩ := ih (b := filled.endRow) (by
      intro name
      obtain ⟨alone, last, halone, hlast⟩ := hstep name
      rw [pushValues_only hfilled name] at halone
      cases halone
      exact ⟨last, by rwa [only_endRow]⟩)
    refine ⟨after, pushRows_cons_eq_ok_iff.mpr ⟨filled.endRow, ?_, hafter⟩⟩
    exact pushRow_eq_ok_iff.mpr ⟨filled, hfilled, rfl⟩

/-- Each column has the name under which it is kept, and its notes are about itself. -/
def Named (b : FrameBuilder) : Prop :=
  ∀ name c, (name, c) ∈ b.columns → c.name = name ∧ c.OwnNotes

namespace Named

theorem withColumn (h : b.Named) {c : GrowingColumn} (hname : c.name = name) (hnotes : c.OwnNotes) :
    (b.withColumn name c).Named := by
  intro other found hfound
  rcases Entries.mem_put hfound with hmem | hnew
  · exact h other found hmem
  · cases hnew
    exact ⟨hname, hnotes⟩

theorem pushValue (h : b.Named) {value : Value} (hpush : b.pushValue name value = .ok after) :
    after.Named := by
  rcases pushValue_cases hpush with ⟨c, grown, hc, hgrown, rfl⟩ | ⟨-, cell, -, rfl⟩ | ⟨-, -, rfl⟩
  · obtain ⟨hname, hnotes⟩ := h name c (Entries.mem_of_find? hc)
    apply h.withColumn
    · exact (GrowingColumn.grows_append hgrown).name.trans hname
    · exact hnotes.append hgrown
  · apply h.withColumn
    · rfl
    · intro d hd
      cases hd
  · exact h

theorem pushValues (h : b.Named) (hpush : b.pushValues row = (.ok (), after)) : after.Named := by
  induction row generalizing b with
  | nil =>
    cases hpush
    exact h
  | cons entry rest ih =>
    obtain ⟨next, hnext, hrest⟩ := pushValues_cons_eq_ok_iff.mp hpush
    exact ih (h.pushValue hnext) hrest

theorem endRow (h : b.Named) : b.endRow.Named := by
  intro name c hc
  obtain ⟨⟨n, before⟩, hmem, heq⟩ := List.mem_map.mp hc
  cases heq
  have hbefore := h name before hmem
  unfold level
  split
  · exact hbefore
  · exact hbefore

theorem pushRows (h : b.Named) (hpush : b.pushRows rows = .ok after) : after.Named := by
  induction rows generalizing b with
  | nil =>
    cases hpush
    exact h
  | cons row rest ih =>
    obtain ⟨next, hnext, hrest⟩ := pushRows_cons_eq_ok_iff.mp hpush
    obtain ⟨filled, hfilled, rfl⟩ := pushRow_eq_ok_iff.mp hnext
    exact ih (h.pushValues hfilled).endRow hrest

theorem column?_frame (h : b.Named) (name : String) :
    b.frame.column? name = (b.columns.find? name).map GrowingColumn.column := by
  have hcolumns (columns : Entries GrowingColumn) (hnames : ∀ n c, (n, c) ∈ columns → c.name = n) :
      (columns.map fun (_, c) => c.column).find? (·.name == name) =
        (columns.find? name).map GrowingColumn.column := by
    induction columns with
    | nil => rfl
    | cons entry rest ih =>
      obtain ⟨n, c⟩ := entry
      have hn : c.column.name = n := hnames n c List.mem_cons_self
      have hrest := ih fun n c hmem => hnames n c (List.mem_cons_of_mem _ hmem)
      by_cases hname : n = name
      · simp [hn, hname]
      · simpa [hn, hname] using hrest
  exact hcolumns b.columns fun n c hmem => (h n c hmem).1

theorem diagnostics_only (h : b.Named) (name : String) :
    (b.only name).frame.diagnostics = b.frame.diagnostics.filter (·.column = name) := by
  have hnotes (columns : Entries GrowingColumn)
      (hnamed : ∀ n c, (n, c) ∈ columns → c.name = n ∧ c.OwnNotes) :
      ((columns.only name).flatMap fun (_, c) => c.diagnostics) =
        (columns.flatMap fun (_, c) => c.diagnostics).filter (·.column = name) := by
    induction columns with
    | nil => rfl
    | cons entry rest ih =>
      obtain ⟨n, c⟩ := entry
      obtain ⟨hn, hown⟩ := hnamed n c List.mem_cons_self
      have hrest := ih fun n c hmem => hnamed n c (List.mem_cons_of_mem _ hmem)
      rw [List.flatMap_cons, List.filter_append, ← hrest]
      by_cases hname : n = name
      · have hall : c.diagnostics.filter (·.column = name) = c.diagnostics := by
          rw [List.filter_eq_self]
          intro d hd
          simp [hown d hd, hn, hname]
        simp [Entries.only, hname, hall]
      · have hnone : c.diagnostics.filter (·.column = name) = [] := by
          rw [List.filter_eq_nil_iff]
          intro d hd
          simp [hown d hd, hn, hname]
        simp [Entries.only, hname, hnone]
  exact hnotes b.columns h

end Named

end FrameBuilder

namespace Frame
variable {name : String} {rows others : List Row} {formats : Entries TimeFormat} {frame other : Frame}

def diagnosticsOf (frame : Frame) (field : String) : List Diagnostic :=
  frame.diagnostics.filter (·.column = field)

/-- Two frames have the same column of that name, or neither has one, and the same happened to it. -/
def SameColumn (frame other : Frame) (field : String) : Prop :=
  other.column? field = frame.column? field ∧ other.diagnosticsOf field = frame.diagnosticsOf field

def onlyRows (rows : List Row) (field : String) : List Row := rows.map (Entries.only · field)

theorem ofRows_only (distinct : ∀ row ∈ rows, row.names.Nodup)
    (h : Frame.ofRows name rows formats = .ok frame) (field : String) :
    ∃ alone, Frame.ofRows name (onlyRows rows field) formats = .ok alone ∧
      alone.rowCount = frame.rowCount ∧
      alone.columns = (frame.column? field).toList ∧
      alone.diagnostics = frame.diagnosticsOf field := by
  obtain ⟨b, hb, rfl⟩ := Failure.map_eq_ok_iff.mp h
  have haligned := (FrameBuilder.aligned_empty name formats).pushRows distinct hb
  have hnamed : b.Named := FrameBuilder.Named.pushRows (fun _ _ hmem => by cases hmem) hb
  have halone := FrameBuilder.pushRows_only hb field
  refine ⟨(b.only field).frame, ?_, rfl, ?_, hnamed.diagnostics_only field⟩
  · exact Failure.map_eq_ok_iff.mpr ⟨_, halone, rfl⟩
  · rw [hnamed.column?_frame, FrameBuilder.frame, FrameBuilder.only,
      Entries.only_eq_toList haligned.nodup]
    cases b.columns.find? field with
    | none => rfl
    | some c => rfl

theorem onlyRows_eq_of_perm (distinct : ∀ row ∈ rows, row.names.Nodup)
    (h : List.Forall₂ List.Perm others rows) (field : String) :
    onlyRows others field = onlyRows rows field := by
  induction h with
  | nil => rfl
  | cons hrow _ ih =>
    rw [onlyRows, List.map_cons, onlyRows, List.map_cons]
    congr 1
    · exact Entries.only_eq_of_perm hrow (distinct _ List.mem_cons_self) field
    · exact ih fun row hmem => distinct row (List.mem_cons_of_mem _ hmem)

theorem nodup_of_perm (distinct : ∀ row ∈ rows, row.names.Nodup)
    (h : List.Forall₂ List.Perm others rows) : ∀ row ∈ others, row.names.Nodup := by
  induction h with
  | nil =>
    intro row hmem
    cases hmem
  | cons hrow _ ih =>
    intro row hmem
    rcases List.mem_cons.mp hmem with rfl | hmem
    · exact (hrow.map Prod.fst).nodup_iff.mpr (distinct _ List.mem_cons_self)
    · exact ih (fun row hmem => distinct row (List.mem_cons_of_mem _ hmem)) row hmem

theorem exists_ofRows_of_only
    (h : ∀ field, ∃ alone, Frame.ofRows name (onlyRows rows field) formats = .ok alone) :
    ∃ frame, Frame.ofRows name rows formats = .ok frame := by
  obtain ⟨b, hb⟩ : ∃ b, FrameBuilder.pushRows { name, formats } rows = .ok b := by
    apply FrameBuilder.exists_pushRows_of_only
    intro field
    obtain ⟨alone, halone⟩ := h field
    obtain ⟨after, hafter, -⟩ := Failure.map_eq_ok_iff.mp halone
    exact ⟨after, hafter⟩
  exact ⟨b.frame, Failure.map_eq_ok_iff.mpr ⟨b, hb, rfl⟩⟩

theorem column?_eq_none_iff (distinct : ∀ row ∈ rows, row.names.Nodup)
    (h : Frame.ofRows name rows formats = .ok frame) (field : String) :
    frame.column? field = none ↔
      ∀ row ∈ rows, row.find? field = none ∨ row.find? field = some .null := by
  obtain ⟨b, hb, rfl⟩ := Failure.map_eq_ok_iff.mp h
  have haligned := (FrameBuilder.aligned_empty name formats).pushRows distinct hb
  have hnamed : b.Named := FrameBuilder.Named.pushRows (fun _ _ hmem => by cases hmem) hb
  rw [hnamed.column?_frame, Option.map_eq_none_iff, Entries.find?_eq_none_iff, haligned.names,
    Row.heldNames_nil, List.append_nil, List.mem_eraseDups, List.mem_flatMap]
  constructor
  · intro hnone row hrow
    apply Row.holds_eq_false_iff.mp
    rw [Bool.eq_false_iff]
    intro hholds
    exact hnone ⟨row, hrow, Row.mem_heldNames_of_holds hholds⟩
  · rintro hnull ⟨row, hrow, hheld⟩
    have hholds := Row.holds_of_mem_heldNames (distinct row hrow) hheld
    rw [Row.holds_eq_false_iff.mpr (hnull row hrow)] at hholds
    cases hholds

theorem sameColumn_of_only_eq (distinct : ∀ row ∈ rows, row.names.Nodup)
    (hothers : ∀ row ∈ others, row.names.Nodup)
    (h : Frame.ofRows name rows formats = .ok frame)
    (hother : Frame.ofRows name others formats = .ok other) {field : String}
    (hsame : onlyRows others field = onlyRows rows field) : frame.SameColumn other field := by
  obtain ⟨alone, halone, -, hcolumns, hdiagnostics⟩ := ofRows_only distinct h field
  obtain ⟨again, hagain, -, hcolumns', hdiagnostics'⟩ := ofRows_only hothers hother field
  rw [hsame, halone] at hagain
  cases hagain
  constructor
  · have hlist := congrArg List.head? (hcolumns'.symm.trans hcolumns)
    simpa using hlist
  · exact hdiagnostics'.symm.trans hdiagnostics

/-- A column of a frame depends on its own attribute alone. Rows that are cut down to the attribute
make a frame of that one column with its diagnostics, or of no column if the attribute is never more
than null. Other attributes do not change the column, whatever they hold, and the order of the
attributes in the rows changes none. -/
theorem ofRows_independent (distinct : ∀ row ∈ rows, row.names.Nodup)
    (h : Frame.ofRows name rows formats = .ok frame) :
    (∀ field, ∃ alone, Frame.ofRows name (onlyRows rows field) formats = .ok alone ∧
      alone.rowCount = frame.rowCount ∧
      alone.columns = (frame.column? field).toList ∧
      alone.diagnostics = frame.diagnosticsOf field) ∧
    (∀ field, frame.column? field = none ↔
      ∀ row ∈ rows, row.find? field = none ∨ row.find? field = some .null) ∧
    (∀ others other field, (∀ row ∈ others, row.names.Nodup) →
      Frame.ofRows name others formats = .ok other →
      onlyRows others field = onlyRows rows field → frame.SameColumn other field) ∧
    ∀ reordered, List.Forall₂ List.Perm reordered rows →
      ∃ other, Frame.ofRows name reordered formats = .ok other ∧
        ∀ field, frame.SameColumn other field := by
  refine ⟨ofRows_only distinct h, column?_eq_none_iff distinct h, ?_, ?_⟩
  · intro others other field hothers hother hsame
    exact sameColumn_of_only_eq distinct hothers h hother hsame
  · intro reordered hperm
    have hsame := onlyRows_eq_of_perm distinct hperm
    obtain ⟨other, hother⟩ : ∃ other, Frame.ofRows name reordered formats = .ok other := by
      apply exists_ofRows_of_only
      intro field
      obtain ⟨alone, halone, -⟩ := ofRows_only distinct h field
      exact ⟨alone, by rwa [hsame field]⟩
    refine ⟨other, hother, ?_⟩
    intro field
    exact sameColumn_of_only_eq distinct (nodup_of_perm distinct hperm) h hother (hsame field)

/-- A column that is widened next to one that is converted to text, and their attributes in another
order. -/
theorem ofRows_independent_of_mixed_values :
    let rows : List Row :=
      [[("n", .number "1"), ("x", .bool true)], [("n", .number "1.5"), ("x", .string "s")]]
    ∃ frame alone other, Frame.ofRows "A" rows [] = .ok frame ∧
      Frame.ofRows "A" [[("n", .number "1")], [("n", .number "1.5")]] [] = .ok alone ∧
      alone.columns = (frame.column? "n").toList ∧ frame.diagnosticsOf "n" = [.widened "n" 1] ∧
      Frame.ofRows "A" [
        [("x", .bool true), ("n", .number "1")],
        [("n", .number "1.5"), ("x", .string "s")]] [] = .ok other ∧
      frame.SameColumn other "n" := by
  intro rows
  obtain ⟨frame, h⟩ : ∃ frame, Frame.ofRows "A" rows [] = .ok frame := ⟨_, rfl⟩
  obtain ⟨honly, -, -, hreordered⟩ := ofRows_independent (by decide) h
  obtain ⟨alone, halone, -, hcolumns, hdiagnostics⟩ := honly "n"
  obtain ⟨other, hother, hsame⟩ := hreordered
    [[("x", .bool true), ("n", .number "1")], [("n", .number "1.5"), ("x", .string "s")]]
    (.cons (.swap _ _ _) (.cons (.refl _) .nil))
  refine ⟨frame, alone, other, h, halone, hcolumns, ?_, hother, hsame "n"⟩
  rw [← hdiagnostics]
  cases halone
  rfl

end Frame

end ItemStore
