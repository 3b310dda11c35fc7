import ItemStore.Frame.Wire
import ItemStore.Proofs.Frame.CellOrigin
import ItemStore.Proofs.Json.WrittenRecord
import ItemStore.Proofs.Time.DocumentText
import ItemStore.Proofs.Value.PlainForm

/-! # Frames written and read

In a column that grew from values no cell but a null one is written as null. So a frame is read again
from what is written for it: its names and hints, the types of its columns, every cell, the number of
its rows and its diagnostics.
-/
namespace ItemStore
open Json (Decoder Record)
open Json.Decoder
open Number (Binary64)

/-! ### Cells -/

/-- A cell is read again from what is written for it. A float has to be finite and a time may lie in no
leap second; a null in a cell of JSON would be read as no cell. -/
def Cell.Lasting : Cell → Prop
  | .int64 i => Number.fitsInt64 i = true
  | .float64 x => x.isFinite = true
  | .time t => Time.inRange t.seconds = true ∧ t.nanos < Time.nanosPerSecond
  | .json v => v.isNull = false ∧ v.InRange ∧ v.Distinct
  | _ => True

namespace ColumnData
variable {levels : Nat}

theorem restores_values {α : Type} {read : Decoder α} {encode : α → Json} {values : List (Option α)}
    (h : ∀ a, some a ∈ values → (encode a).isNull = false ∧
      ∀ inner, (encode a).depth ≤ inner → read.Restores inner (encode a) a)
    (hdepth : (valuesJson encode values).depth ≤ levels) :
    (Decoder.list (.optional read)).Restores levels (valuesJson encode values) values := by
  refine restores_array (fun value hvalue inner hinner => ?_) hdepth
  cases value with
  | none => exact restores_null
  | some a =>
    obtain ⟨hnull, hread⟩ := h a hvalue
    exact (hread inner hinner).optional hnull

theorem restores_time {t : Time.Instant} (hrange : Time.inRange t.seconds = true)
    (hnanos : t.nanos < Time.nanosPerSecond) (levels : Nat) :
    readTime.Restores levels (.string t.render) t := by
  have htext : Decoder.text levels (Json.string t.render).toWritten = some t.render := rfl
  refine ⟨.string _, ?_⟩
  rw [readTime, htext, Option.bind_some, Time.ofDocument?_render hrange hnanos]

def contents : ColumnData → Json
  | .string values => valuesJson .string values
  | .int64 values => valuesJson .ofInt values
  | .float64 values => valuesJson .ofFloat values
  | .bool values => valuesJson .bool values
  | .time values => valuesJson (fun t => .string t.render) values
  | .json values => valuesJson id values

theorem toJson_eq (data : ColumnData) :
    data.toJson = .object [("type", .string data.type.name), ("values", data.contents)] := by
  cases data <;> rfl

theorem restores_contents {data : ColumnData} (h : ∀ cell, some cell ∈ data.cells → cell.Lasting)
    (hdepth : data.contents.depth ≤ levels) :
    (readValues data.type).Restores levels data.contents data := by
  have hcell {α : Type} {toCell : α → Cell} {values : List (Option α)} {a : α} (ha : some a ∈ values) :
      some (toCell a) ∈ values.map (·.map toCell) := List.mem_map.mpr ⟨some a, ha, rfl⟩
  cases data with
  | string values =>
    have hvalues := restores_values (fun s _ => ⟨rfl, fun inner _ => restores_text s inner⟩) hdepth
    exact hvalues.map ColumnData.string
  | int64 values =>
    have hvalues := restores_values
      (fun i hi => ⟨rfl, fun inner _ => restores_int64 (h _ (hcell hi)) inner⟩) hdepth
    exact hvalues.map ColumnData.int64
  | float64 values =>
    have hread (x : Binary64) (hx : some x ∈ values) : (Json.ofFloat x).isNull = false ∧
        ∀ inner, (Json.ofFloat x).depth ≤ inner → Decoder.float.Restores inner (.ofFloat x) x := by
      have hfinite : x.isFinite = true := h _ (hcell hx)
      refine ⟨?_, fun inner _ => restores_float hfinite inner⟩
      rw [Json.ofFloat, if_pos hfinite]
      rfl
    exact (restores_values hread hdepth).map ColumnData.float64
  | bool values =>
    have hvalues := restores_values (fun b _ => ⟨rfl, fun inner _ => restores_flag b inner⟩) hdepth
    exact hvalues.map ColumnData.bool
  | time values =>
    have hread (t : Time.Instant) (ht : some t ∈ values) : (Json.string t.render).isNull = false ∧
        ∀ inner, (Json.string t.render).depth ≤ inner →
          readTime.Restores inner (.string t.render) t := by
      obtain ⟨hrange, hnanos⟩ : Time.inRange t.seconds = true ∧ t.nanos < Time.nanosPerSecond :=
        h _ (hcell ht)
      exact ⟨rfl, fun inner _ => restores_time hrange hnanos inner⟩
    exact (restores_values hread hdepth).map ColumnData.time
  | json values =>
    have hread (v : Json) (hv : some v ∈ values) : (id v).isNull = false ∧
        ∀ inner, (id v).depth ≤ inner → Decoder.value.Restores inner (id v) v := by
      obtain ⟨hnull, hrange, hdistinct⟩ : v.isNull = false ∧ v.InRange ∧ v.Distinct := h _ (hcell hv)
      exact ⟨hnull, fun inner hinner => restores_value ⟨hrange, hdistinct, hinner⟩⟩
    exact (restores_values hread hdepth).map ColumnData.json

theorem find?_words (type : ColumnType) : Entries.find? ColumnType.words type.name = some type := by
  cases type <;> rfl

theorem restores {data : ColumnData} (h : ∀ cell, some cell ∈ data.cells → cell.Lasting)
    (hdepth : data.toJson.depth ≤ levels) : read.Restores levels data.toJson data := by
  rw [toJson_eq] at hdepth ⊢
  obtain ⟨inner, rfl, hfields⟩ := Json.exists_of_depth_object_le hdepth
  let fields := [("type", Json.string data.type.name), ("values", data.contents)]
  have htype := restores_word (find?_words data.type) inner
  have hvalues := restores_contents h (hfields ("values", data.contents) (by simp))
  have hrange : ∀ field ∈ fields, field.2.InRange := by
    simpa [fields] using ⟨htype.inRange, hvalues.inRange⟩
  refine ⟨.object fun name json hmem => hrange (name, json) hmem, ?_⟩
  refine (Record.restores_object fields (by simp [fields]) ?_ hrange ?_).reads
  · simp [fields]
  · simp only [Option.bind_eq_bind, Option.bind_some,
      Record.required_ofFields fields "type" (by simp [fields]) htype,
      Record.required_ofFields fields "values" (by simp [fields]) hvalues]

theorem depth_contents_le {data : ColumnData} (h : ∀ v, some (.json v) ∈ data.cells → v.depth ≤ levels) :
    data.contents.depth ≤ levels + 1 := by
  have hvalues {α : Type} {encode : α → Json} {values : List (Option α)}
      (h : ∀ a, some a ∈ values → (encode a).depth ≤ levels) :
      (valuesJson encode values).depth ≤ levels + 1 := by
    refine Json.depth_array_le (List.forall_mem_map.mpr fun value hvalue => ?_)
    cases value with
    | none => exact Nat.zero_le _
    | some a => exact h a hvalue
  cases data with
  | string values | int64 values | bool values | time values => exact hvalues fun _ _ => Nat.zero_le _
  | float64 values =>
    refine hvalues fun x _ => ?_
    unfold Json.ofFloat
    split <;> exact Nat.zero_le _
  | json values => exact hvalues fun v hv => h v (List.mem_map.mpr ⟨some v, hv, rfl⟩)

end ColumnData

theorem Value.isNull_of_composite {v : Value} {json : Json} (h : v.isComposite = true)
    (hjson : v.toJson = .ok json) : json.isNull = false := by
  cases v with
  | list items | map entries | numberSet items =>
    obtain ⟨parts, -, rfl⟩ := Failure.map_eq_ok_iff.mp hjson
    rfl
  | stringSet items =>
    cases hjson
    rfl
  | _ => cases h

/-! ### Columns -/

theorem Column.restores {column : Column} {levels : Nat}
    (hformat : ∀ format ∈ column.format, TimeFormat.ofHint? format.hint = some format)
    (h : ∀ cell, some cell ∈ column.data.cells → cell.Lasting)
    (hdepth : column.toJson.depth ≤ levels) : read.Restores levels column.toJson column := by
  let members := [
    (true, "name", Json.string column.name),
    (column.format.isSome, "datetime_format", Json.string (column.format.elim "" TimeFormat.hint)),
    (true, "data", column.data.toJson)]
  have hjson : column.toJson = .object (Record.written members) := by
    obtain ⟨name, _ | format, data⟩ := column <;> rfl
  rw [hjson] at hdepth ⊢
  obtain ⟨inner, rfl, hfields⟩ := Json.exists_of_depth_object_le hdepth
  have hnames : (members.map fun member => member.2.1).Nodup := by simp [members]
  have hname := restores_text column.name inner
  have hdata := ColumnData.restores h
    (hfields ("data", column.data.toJson) (by simp [members, Record.written]))
  have hread (hsome : column.format.isSome = true) :
      (Decoder.optional .text).Restores inner (.string (column.format.elim "" TimeFormat.hint))
        (column.format.map TimeFormat.hint) := by
    obtain ⟨format, hsome⟩ := Option.isSome_iff_exists.mp hsome
    rw [hsome]
    exact (restores_text format.hint inner).optional rfl
  have hhint := Record.withDefault_written hnames "datetime_format" none column.format.isSome
    (by simp [members]) hread (by simp)
  have hformats : (column.format.map TimeFormat.hint).bind TimeFormat.ofHint? = column.format := by
    cases hcolumn : column.format with
    | none => rfl
    | some format => exact hformat format hcolumn
  have hrange : ∀ member ∈ members, member.2.2.InRange := by
    simpa [members] using ⟨hname.inRange, .string _, hdata.inRange⟩
  refine Record.restores_written members hnames (by simp [members])
    (fun member hmem _ => hrange member hmem) ?_
  simp only [Option.bind_eq_bind, Option.bind_some, hhint, hformats,
    Record.required_written hnames "name" (by simp [members]) hname,
    Record.required_written hnames "data" (by simp [members]) hdata]

/-! ### Diagnostics -/

namespace Diagnostic

def details : Diagnostic → List (String × Json)
  | .widened column row => [("column", .string column), ("row", .ofNat row)]
  | .converted column type row =>
    [("column", .string column), ("from", .string type.name), ("row", .ofNat row)]
  | .replaced column row placeholder =>
    [("column", .string column), ("row", .ofNat row), ("placeholder", .string placeholder)]

theorem toJson_eq (d : Diagnostic) : d.toJson = .object (("kind", .string d.kind) :: d.details) := by
  cases d <;> rfl

/-- The member that names the kind is found, and the others are left as they are. -/
theorem takeKind?_toWritten (d : Diagnostic) :
    takeKind? (Json.toWrittenMembers (("kind", .string d.kind) :: d.details)) =
      some (d.kind, Json.toWrittenMembers d.details) := by
  cases d <;> rfl

theorem readMembers_details {d : Diagnostic} (hrow : (d.row : Int) ≤ Number.nat64Max) (inner : Nat) :
    readMembers d.kind (inner + 1) (Json.object d.details).toWritten = some d := by
  have hnumber := restores_nat64 hrow inner
  cases d with
  | widened column row =>
    let fields := [("column", Json.string column), ("row", Json.ofNat row)]
    have hrecord := Record.ofWritten?_toWritten ["column", "row"] fields (by simp [fields])
      (by simp [fields]) inner
    change (Record.ofWritten? _ (inner + 1) (Json.object fields).toWritten >>= _) = _
    simp only [hrecord, Option.bind_eq_bind, Option.bind_some,
      Record.required_ofFields fields "column" (by simp [fields]) (restores_text column inner),
      Record.required_ofFields fields "row" (by simp [fields, Diagnostic.row]) hnumber]
    rfl
  | converted column type row =>
    let fields := [("column", Json.string column), ("from", Json.string type.name),
      ("row", Json.ofNat row)]
    have hrecord := Record.ofWritten?_toWritten ["column", "from", "row"] fields (by simp [fields])
      (by simp [fields]) inner
    change (Record.ofWritten? _ (inner + 1) (Json.object fields).toWritten >>= _) = _
    simp only [hrecord, Option.bind_eq_bind, Option.bind_some,
      Record.required_ofFields fields "column" (by simp [fields]) (restores_text column inner),
      Record.required_ofFields fields "from" (by simp [fields])
        (restores_word (ColumnData.find?_words type) inner),
      Record.required_ofFields fields "row" (by simp [fields, Diagnostic.row]) hnumber]
    rfl
  | replaced column row placeholder =>
    let fields := [("column", Json.string column), ("row", Json.ofNat row),
      ("placeholder", Json.string placeholder)]
    have hrecord := Record.ofWritten?_toWritten ["column", "row", "placeholder"] fields
      (by simp [fields]) (by simp [fields]) inner
    change (Record.ofWritten? _ (inner + 1) (Json.object fields).toWritten >>= _) = _
    simp only [hrecord, Option.bind_eq_bind, Option.bind_some,
      Record.required_ofFields fields "column" (by simp [fields]) (restores_text column inner),
      Record.required_ofFields fields "row" (by simp [fields, Diagnostic.row]) hnumber,
      Record.required_ofFields fields "placeholder" (by simp [fields])
        (restores_text placeholder inner)]
    rfl

theorem taken_toJson {d : Diagnostic} (hrow : (d.row : Int) ≤ Number.nat64Max) (inner : Nat) :
    d.toJson.Taken (inner + 1) := by
  have hnumber : (Json.ofNat d.row).Taken inner :=
    ⟨(restores_nat64 hrow inner).inRange, trivial, Nat.zero_le _⟩
  refine .object ?_ ?_
  · cases d <;> simp
  · cases d <;> simpa [Json.taken_string, Diagnostic.row] using hnumber

theorem restores {d : Diagnostic} {levels : Nat} (hrow : (d.row : Int) ≤ Number.nat64Max)
    (hdepth : d.toJson.depth ≤ levels) : read.Restores levels d.toJson d := by
  obtain ⟨inner, rfl, -⟩ := Json.exists_of_depth_object_le hdepth
  have htaken := taken_toJson hrow inner
  have hvalue := htaken.value?_toWritten
  have hwritten : d.toJson.toWritten =
      .object (Json.toWrittenMembers (("kind", .string d.kind) :: d.details)) := by
    rw [toJson_eq, Json.toWritten]
  refine ⟨htaken.inRange, ?_⟩
  rw [hwritten] at hvalue ⊢
  simp only [read, hvalue, Option.bind_eq_bind, Option.bind_some, takeKind?_toWritten]
  exact readMembers_details hrow inner

end Diagnostic

/-! ### Frames -/

namespace Frame
variable {frame : Frame} {levels : Nat}

structure Lasting (frame : Frame) : Prop where
  count : (frame.rowCount : Int) ≤ Number.nat64Max
  format : ∀ column ∈ frame.columns, ∀ format ∈ column.format,
    TimeFormat.ofHint? format.hint = some format
  cells : ∀ column ∈ frame.columns, ∀ cell, some cell ∈ column.data.cells → cell.Lasting
  notes : ∀ d ∈ frame.diagnostics, (d.row : Int) ≤ Number.nat64Max

theorem restores (h : frame.Lasting) (hdepth : frame.toJson.depth ≤ levels) :
    read.Restores levels frame.toJson frame := by
  let members := [
    (true, "name", Json.string frame.name),
    (true, "columns", Json.array (frame.columns.map Column.toJson)),
    (true, "row_count", Json.ofNat frame.rowCount),
    (!frame.diagnostics.isEmpty, "diagnostics", Json.array (frame.diagnostics.map Diagnostic.toJson))]
  have hjson : frame.toJson = .object (Record.written members) := by
    obtain ⟨name, columns, rowCount, _ | ⟨d, rest⟩⟩ := frame <;> rfl
  rw [hjson] at hdepth ⊢
  obtain ⟨inner, rfl, hfields⟩ := Json.exists_of_depth_object_le hdepth
  have hnames : (members.map fun member => member.2.1).Nodup := by simp [members]
  have hname := restores_text frame.name inner
  have hcolumns := restores_array
    (fun column hcolumn _ => Column.restores (h.format column hcolumn) (h.cells column hcolumn))
    (hfields ("columns", .array (frame.columns.map Column.toJson)) (by simp [members, Record.written]))
  have hcount := restores_nat64 h.count inner
  have hnotes (hpresent : (!frame.diagnostics.isEmpty) = true) :=
    restores_array (fun note hnote _ => Diagnostic.restores (h.notes note hnote))
      (hfields ("diagnostics", .array (frame.diagnostics.map Diagnostic.toJson))
        (by simpa [members, Record.written] using hpresent))
  have hrange : ∀ member ∈ members, member.1 = true → member.2.2.InRange := by
    simp only [members, List.forall_mem_cons, List.not_mem_nil, false_implies, implies_true, and_true]
    exact ⟨fun _ => hname.inRange, fun _ => hcolumns.inRange, fun _ => hcount.inRange,
      fun hpresent => (hnotes hpresent).inRange⟩
  refine Record.restores_written members hnames (by simp [members]) hrange ?_
  simp only [Option.bind_eq_bind, Option.bind_some,
    Record.required_written hnames "name" (by simp [members]) hname,
    Record.required_written hnames "columns" (by simp [members]) hcolumns,
    Record.withDefault_written hnames "row_count" 0 true (by simp [members]) (fun _ => hcount) (by simp),
    Record.withDefault_written hnames "diagnostics" [] (!frame.diagnostics.isEmpty) (by simp [members])
      hnotes (by simp)]

/-! ### Frames of rows -/

/-- The frame, its columns, each column, its data and its values are a level each. -/
theorem depth_toJson_le (h : ∀ column ∈ frame.columns, ∀ v, some (.json v) ∈ column.data.cells →
    v.depth ≤ levels) : frame.toJson.depth ≤ levels + 5 := by
  have hcolumn (column : Column) (hmem : column ∈ frame.columns) :
      column.toJson.depth ≤ levels + 3 := by
    have hcontents := ColumnData.depth_contents_le (h column hmem)
    have hdata : column.data.toJson.depth ≤ levels + 2 := by
      rw [ColumnData.toJson_eq]
      exact Json.depth_object_le (by simp [Json.depth, hcontents])
    exact Json.depth_object_le (by cases column.format <;> simp [Json.depth, hdata])
  have hnote (d : Diagnostic) : d.toJson.depth ≤ levels + 3 :=
    Json.depth_object_le (by cases d <;> simp [Json.depth, Json.ofNat])
  have hcolumns : (Json.array (frame.columns.map Column.toJson)).depth ≤ levels + 4 :=
    Json.depth_array_le (List.forall_mem_map.mpr hcolumn)
  have hnotes : (Json.array (frame.diagnostics.map Diagnostic.toJson)).depth ≤ levels + 4 :=
    Json.depth_array_le (List.forall_mem_map.mpr fun d _ => hnote d)
  refine Json.depth_object_le ?_
  rw [List.forall_mem_append]
  constructor
  · simpa [Json.ofNat, Json.depth] using hcolumns
  · split
    · simp
    · simpa using hnotes

variable {name : String} {rows : List Row} {formats : Entries TimeFormat}

theorem lasting_of_ofRows (distinct : ∀ row ∈ rows, row.names.Nodup ∧ ∀ entry ∈ row, entry.2.Distinct)
    (hcount : (rows.length : Int) ≤ Number.nat64Max)
    (hformats : ∀ entry ∈ formats, ∃ hint, TimeFormat.ofHint? hint = some entry.2)
    (hframe : Frame.ofRows name rows formats = .ok frame)
    (hfinite : ∀ column ∈ frame.columns, ∀ x, some (.float64 x) ∈ column.data.cells → x.isFinite = true)
    (hleap : ∀ column ∈ frame.columns, ∀ t, some (.time t) ∈ column.data.cells →
      t.nanos < Time.nanosPerSecond) : frame.Lasting := by
  have hsound := sound_of_ofRows Value.Distinct (fun row hrow => (distinct row hrow).1)
    (fun row hrow => (distinct row hrow).2) hframe
  constructor
  · rwa [hsound.count]
  · intro column hcolumn format hformat
    rw [hsound.format column hcolumn] at hformat
    obtain ⟨hint, hhint⟩ := hformats _ (Entries.mem_of_find? hformat)
    rw [TimeFormat.hint_of_ofHint? hhint]
    exact hhint
  · intro column hcolumn cell hcell
    have hcellsound := hsound.cells column hcolumn cell hcell
    cases cell with
    | string s => trivial
    | int64 i => exact hcellsound
    | float64 x => exact hfinite column hcolumn x hcell
    | bool b => trivial
    | time t => exact ⟨hcellsound, hleap column hcolumn t hcell⟩
    | json v =>
      rcases hcellsound with ⟨placeholder, rfl⟩ | ⟨value, hvalue, hcomposite, hjson⟩
      · exact ⟨rfl, .string placeholder, trivial⟩
      · have hdepth : value.toWire.depth ≤ 2 * value.toWire.depth + 1 := by omega
        have htaken := Value.taken_of_toJson hvalue hdepth hjson
        exact ⟨Value.isNull_of_composite hcomposite hjson, htaken.inRange, htaken.distinct⟩
  · intro d hd
    have hlt := hsound.notes d hd
    omega

/-- A frame of rows is read again from the text that is written for it, in any place that allows as
many levels as it has, and in any document if the values could be read from documents themselves: the
same names and hints, types and cells, number of rows and diagnostics. -/
theorem read_render_ofRows
    (distinct : ∀ row ∈ rows, row.names.Nodup ∧ ∀ entry ∈ row, entry.2.Distinct)
    (hcount : (rows.length : Int) ≤ Number.nat64Max)
    (hformats : ∀ entry ∈ formats, ∃ hint, TimeFormat.ofHint? hint = some entry.2)
    (hframe : Frame.ofRows name rows formats = .ok frame)
    (hfinite : ∀ column ∈ frame.columns, ∀ x, some (.float64 x) ∈ column.data.cells → x.isFinite = true)
    (hleap : ∀ column ∈ frame.columns, ∀ t, some (.time t) ∈ column.data.cells →
      t.nanos < Time.nanosPerSecond) :
    (∀ levels, frame.toJson.depth ≤ levels →
      (Json.Written.read? (Text.symbols (Text.bytes frame.toJson.render))).bind (read levels) =
        some frame) ∧
    ((∀ row ∈ rows, ∀ entry ∈ row, entry.2.toWire.depth ≤ Json.maxLevels) →
      read.run (Text.symbols (Text.bytes frame.toJson.render)) = some frame) := by
  have hlasting := lasting_of_ofRows distinct hcount hformats hframe hfinite hleap
  constructor
  · exact fun levels hdepth => (restores hlasting hdepth).read_render
  · intro hnested
    have hsound := sound_of_ofRows (fun value => value.Distinct ∧ value.toWire.depth ≤ Json.maxLevels)
      (fun row hrow => (distinct row hrow).1)
      (fun row hrow entry hentry => ⟨(distinct row hrow).2 entry hentry, hnested row hrow entry hentry⟩)
      hframe
    have hcells : ∀ column ∈ frame.columns, ∀ v, some (.json v) ∈ column.data.cells → v.depth ≤ 63 := by
      intro column hcolumn v hv
      rcases hsound.cells column hcolumn _ hv with ⟨placeholder, rfl⟩ |
        ⟨value, ⟨hdistinct, hvalue⟩, -, hjson⟩
      · exact Nat.zero_le _
      · exact (Value.taken_of_toJson hdistinct hvalue hjson).depth_le
    have hdepth : frame.toJson.depth ≤ Json.maxLevels :=
      Nat.le_trans (depth_toJson_le hcells) (by decide)
    exact (restores hlasting hdepth).run_render

/-- A column that was widened, times outside the years 0 to 9999 and before the epoch, and a list with
a null in it. -/
theorem read_render_ofRows_late_time :
    let rows : List Row := [
      [("n", .number "1"), ("t", .number "253402300800")],
      [("n", .number "0.5"), ("m", .list [.null])],
      [("n", .null), ("t", .number "-1")]]
    let frame : Frame := {
      name := "f"
      columns := [
        { name := "n", data := .float64 [some (.ofInt 1), some (.ofDecimal false 5 (-1)), none] },
        { name := "t", format := some .unixSeconds,
          data := .time [some ⟨253402300800, 0⟩, none, some ⟨-1, 0⟩] },
        { name := "m", data := .json [none, some (.array [.null]), none] }]
      rowCount := 3
      diagnostics := [.widened "n" 1] }
    Frame.ofRows "f" rows [("t", .unixSeconds)] = .ok frame ∧
      read.run (Text.symbols (Text.bytes frame.toJson.render)) = some frame := by
  intro rows frame
  have hframe : Frame.ofRows "f" rows [("t", .unixSeconds)] = .ok frame := by rfl
  have hone : (Binary64.ofInt 1).isFinite = true := Binary64.isFinite_ofInt (by decide) (by decide)
  have hhalf : (Binary64.ofDecimal false 5 (-1)).isFinite = true := by decide +kernel
  refine ⟨hframe, (read_render_ofRows ?_ (by decide) ?_ hframe ?_ ?_).2 ?_⟩
  · simp only [rows, List.forall_mem_cons, List.not_mem_nil, false_implies, implies_true, and_true]
    simp [Value.Distinct, Value.DistinctItems]
  · simpa using ⟨"1", rfl⟩
  · simp [frame, ColumnData.cells, hone, hhalf]
  · simp [frame, ColumnData.cells, Time.nanosPerSecond]
  · subst rows
    decide

end Frame

end ItemStore
