import ItemStore.Proofs.Frame.ColumnHistory
import ItemStore.Proofs.Time.FieldRange

/-! # Where the cells of a frame come from

An integer in a cell fits into a signed word, a time lies in the calendar, and a JSON value is the
plain form of a composite value or a placeholder, so it is never null. A column keeps this with every
value that it takes, also where its earlier cells change their type.
-/
namespace ItemStore

/-- What a cell can hold in a column whose values are of a kind. -/
def Cell.Sound (kind : Value → Prop) : Cell → Prop
  | .int64 i => Number.fitsInt64 i = true
  | .time t => Time.inRange t.seconds = true
  | .json v =>
    (∃ placeholder, v = .string placeholder) ∨
      ∃ value, kind value ∧ value.isComposite = true ∧ value.toJson = .ok v
  | _ => True

theorem JsonNumber.fitsInt64_of_ofText {text : String} {i : Int} (h : ofText text = .ok (.int i)) :
    Number.fitsInt64 i = true := by
  unfold ofText at h
  split at h
  · next hread =>
    cases h
    exact Number.fitsInt64_of_readInt64? hread
  · cases h
  · cases h

namespace Cell
variable {kind : Value → Prop} {cell : Cell}

/-- The cell that a value begins a column with. -/
theorem sound_of_ofValue {value : Value} {format : Option TimeFormat} (hvalue : kind value)
    (h : ofValue value format = .ok (some cell)) : cell.Sound kind := by
  cases value with
  | string s =>
    simp only [ofValue] at h
    split at h
    · obtain ⟨t, hread, h⟩ := Failure.bind_eq_ok_iff.mp h
      cases h
      exact TimeFormat.inRange_of_readText hread
    · cases h
      trivial
  | number n =>
    obtain ⟨number, hnumber, h⟩ := Failure.bind_eq_ok_iff.mp h
    split at h
    · obtain ⟨t, hread, h⟩ := Failure.bind_eq_ok_iff.mp h
      cases h
      exact TimeFormat.inRange_of_readEpoch hread
    · cases h
      exact JsonNumber.fitsInt64_of_ofText hnumber
    · cases h
      trivial
  | binary bytes | binarySet items | bool b =>
    cases h
    trivial
  | null => cases h
  | map entries | list items | stringSet items | numberSet items =>
    simp only [ofValue] at h
    obtain ⟨json, hjson, h⟩ := Failure.map_eq_ok_iff.mp h
    cases h
    exact .inr ⟨_, hvalue, rfl, hjson⟩

end Cell

namespace GrowingColumn
variable {kind : Value → Prop} {c after : GrowingColumn}

def Sound (kind : Value → Prop) (c : GrowingColumn) : Prop :=
  ∀ cell, some cell ∈ c.data.cells → cell.Sound kind

theorem Sound.step {shown : List Diagnostic} {last : Option Cell} (h : c.Sound kind)
    (hstep : c.Step shown last after) (hlast : ∀ cell ∈ last, cell.Sound kind) :
    after.Sound kind := by
  obtain ⟨notes, hchange, -⟩ := hstep.change
  intro cell hmem
  cases hchange with
  | kept type cells =>
    rw [cells, List.mem_append, List.mem_singleton] at hmem
    rcases hmem with hmem | rfl
    · exact h cell hmem
    · exact hlast cell rfl
  | widened before type cells =>
    rw [cells, List.mem_append, List.mem_singleton, List.mem_map] at hmem
    rcases hmem with ⟨old, hold, hcell⟩ | rfl
    · obtain ⟨old, rfl, rfl⟩ := Option.map_eq_some_iff.mp hcell
      have hsound := h old hold
      cases old with
      | int64 i => trivial
      | _ => exact hsound
    · exact hlast cell rfl
  | converted before type cells =>
    rw [cells, List.mem_append, List.mem_singleton, List.mem_map] at hmem
    rcases hmem with ⟨old, hold, hcell⟩ | rfl
    · obtain ⟨old, rfl, rfl⟩ := Option.map_eq_some_iff.mp hcell
      trivial
    · exact hlast cell rfl

theorem sound_step_of_composite {value : Value} (hvalue : kind value)
    (hcomposite : value.isComposite = true) (h : c.Sound kind) : (c.pushComposite value).Sound kind := by
  unfold pushComposite
  cases hjson : value.toJson with
  | ok json =>
    obtain ⟨cell, hcell, hstep⟩ := step_pushJson c json json.render
    refine h.step hstep ?_
    rintro _ ⟨⟩
    rcases hcell with rfl | rfl
    · exact .inr ⟨value, hvalue, hcomposite, hjson⟩
    · trivial
  | error failure =>
    obtain ⟨cell, hcell, hstep⟩ :=
      step_pushJson _ (.string value.kind.placeholder) value.kind.placeholder
    refine h.step hstep.of_note ?_
    rintro _ ⟨⟩
    rcases hcell with rfl | rfl
    · exact .inl ⟨_, rfl⟩
    · trivial

theorem Sound.append {value : Value} (h : c.Sound kind) (hvalue : kind value)
    (happend : c.append value = .ok after) : after.Sound kind := by
  have hlast {cell : Cell} (hcell : cell.Sound kind) : ∀ other ∈ some cell, other.Sound kind := by
    rintro _ ⟨⟩
    exact hcell
  cases value with
  | string s =>
    obtain ⟨cell, hcell, hstep⟩ := step_pushString happend
    refine h.step hstep (hlast ?_)
    rcases hcell with rfl | ⟨hint, t, hread, rfl⟩
    · trivial
    · exact TimeFormat.inRange_of_readText hread
  | number n =>
    obtain ⟨number, hnumber, happend⟩ := Failure.bind_eq_ok_iff.mp happend
    cases number with
    | int i =>
      obtain ⟨cell, hcell, hstep⟩ := step_pushInt happend
      refine h.step hstep (hlast ?_)
      rcases hcell with rfl | rfl | rfl | ⟨format, t, -, hread, rfl⟩
      · exact JsonNumber.fitsInt64_of_ofText hnumber
      · trivial
      · trivial
      · exact TimeFormat.inRange_of_readEpoch hread
    | float x =>
      cases happend
      obtain ⟨cell, hcell, hstep⟩ := step_pushFloat c x
      refine h.step hstep (hlast ?_)
      rcases hcell with rfl | rfl <;> trivial
  | binary bytes | binarySet items =>
    cases happend
    exact h.step (step_pushText c _) (hlast trivial)
  | bool b =>
    simp only [GrowingColumn.append] at happend
    split at happend
    · next values hdata =>
      cases happend
      have hstep : c.Step [] (some (.bool b)) { c with data := .bool (values ++ [some b]) } :=
        step_of_kept c (by rw [hdata]; rfl) (by simp [hdata, ColumnData.cells])
      exact h.step hstep (hlast trivial)
    · cases happend
      exact h.step (step_pushText c _) (hlast trivial)
  | null =>
    cases happend
    refine h.step (step_pad c) fun cell hcell => ?_
    cases hcell
  | map entries | list items | stringSet items | numberSet items =>
    cases happend
    exact sound_step_of_composite hvalue rfl h

namespace Run
variable {name : String} {format : Option TimeFormat} {values : List (Option Value)}

theorem sound (h : Run name format values c) (hvalues : ∀ value, some value ∈ values → kind value) :
    c.Sound kind := by
  induction h with
  | @start before value c absent h =>
    obtain ⟨first, hfirst, rfl⟩ := start_eq_some_iff.mp h
    intro cell hmem
    rw [ColumnData.cells_startingWith, List.mem_append, List.mem_singleton] at hmem
    rcases hmem with hmem | hcell
    · cases List.eq_of_mem_replicate hmem
    · cases hcell
      exact Cell.sound_of_ofValue (hvalues value (by simp)) hfirst
  | @append values value c after run h ih =>
    have hbefore := ih fun value hmem => hvalues value (List.mem_append_left _ hmem)
    exact hbefore.append (hvalues value (by simp)) h
  | @pad values c run ih =>
    have hbefore := ih fun value hmem => hvalues value (List.mem_append_left _ hmem)
    exact hbefore.step (step_pad c) nofun

theorem inStep (h : Run name format values c) : c.InStep := by
  induction h with
  | start absent h => exact inStep_of_diagnostics_eq_nil (diagnostics_eq_nil_of_start h)
  | @append values value c after run h ih =>
    have hoffer : c.offer (some value) = after := by
      rw [offer, h]
    exact hoffer ▸ ih.offer (some value)
  | pad run ih => exact ih.offer none

end Run

end GrowingColumn

namespace Frame
variable {name : String} {rows : List Row} {formats : Entries TimeFormat} {frame : Frame}

theorem exists_grown (distinct : ∀ row ∈ rows, row.names.Nodup)
    (h : Frame.ofRows name rows formats = .ok frame) :
    ∃ grown : List GrowingColumn, frame.columns = grown.map (·.column) ∧
      frame.diagnostics = grown.flatMap (·.diagnostics) ∧
      ∀ c ∈ grown,
        GrowingColumn.Run c.name (formats.find? c.name) (rows.map (·.find? c.name)) c := by
  obtain ⟨b, hb, rfl⟩ := Failure.map_eq_ok_iff.mp h
  have haligned := (FrameBuilder.aligned_empty name formats).pushRows distinct hb
  refine ⟨b.columns.map (·.2), by simp [FrameBuilder.frame],
    by simp [FrameBuilder.frame, List.flatMap_map], ?_⟩
  rw [List.forall_mem_map]
  rintro ⟨field, c⟩ hmem
  have hfollows := (FrameBuilder.follows_empty name formats field).pushRows distinct hb
  have hrun := hfollows.column c (Entries.find?_eq_some_of_mem haligned.nodup hmem)
  rw [List.nil_append] at hrun
  change GrowingColumn.Run c.name (formats.find? c.name) (rows.map (·.find? c.name)) c
  rwa [hrun.named.1]

structure Sound (kind : Value → Prop) (rows : List Row) (formats : Entries TimeFormat) (frame : Frame) :
    Prop where
  count : frame.rowCount = rows.length
  format : ∀ column ∈ frame.columns, column.format = formats.find? column.name
  cells : ∀ column ∈ frame.columns, ∀ cell, some cell ∈ column.data.cells → cell.Sound kind
  notes : ∀ d ∈ frame.diagnostics, d.row < rows.length

theorem sound_of_ofRows (kind : Value → Prop) (distinct : ∀ row ∈ rows, row.names.Nodup)
    (hvalues : ∀ row ∈ rows, ∀ entry ∈ row, kind entry.2)
    (h : Frame.ofRows name rows formats = .ok frame) : frame.Sound kind rows formats := by
  obtain ⟨grown, hcolumns, hdiagnostics, hruns⟩ := exists_grown distinct h
  have hkind (field : String) (value : Value) (hmem : some value ∈ rows.map (·.find? field)) :
      kind value := by
    obtain ⟨row, hrow, hfind⟩ := List.mem_map.mp hmem
    exact hvalues row hrow _ (Entries.mem_of_find? hfind)
  constructor
  · obtain ⟨b, hb, rfl⟩ := Failure.map_eq_ok_iff.mp h
    exact ((FrameBuilder.aligned_empty name formats).pushRows distinct hb).count
  · rw [hcolumns, List.forall_mem_map]
    exact fun c hc => (hruns c hc).named.2
  · rw [hcolumns, List.forall_mem_map]
    exact fun c hc => (hruns c hc).sound (hkind c.name)
  · rw [hdiagnostics]
    intro d hd
    obtain ⟨c, hc, hmem⟩ := List.mem_flatMap.mp hd
    have hlt := (hruns c hc).inStep.row_lt d hmem
    rwa [(hruns c hc).size, List.length_map] at hlt

end Frame

end ItemStore
