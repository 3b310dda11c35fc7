import ItemStore.Proofs.Frame.ColumnRun
import ItemStore.Proofs.Number.ShortestText

/-! # Integers in a column of texts

The text of an integer depends on the way it took. It has the digits of the integer, unless the
integer was a float on the way: because 64 bits do not hold it, or because its column held decimal
numbers before it became one of texts. Then it is the text of the value nearest to the integer.
-/
namespace ItemStore
open Number (Binary64 intText fitsInt64)

attribute [local instance (2000)] instPowNat

def Value.ofInteger (i : Int) : Value := .number (String.ofList (intText i))

theorem JsonNumber.ofText_intText (i : Int) :
    JsonNumber.ofText (String.ofList (intText i)) =
      .ok (if fitsInt64 i then .int i else .float (.ofInt i)) := by
  rw [JsonNumber.ofText, String.toList_ofList, Number.readInt64?_intText, Number.readFloat?_intText]
  cases fitsInt64 i <;> rfl

namespace GrowingColumn
variable {c after : GrowingColumn} {r : Nat} {i : Int} {cell : Cell} {shown : List Diagnostic}
  {last : Option Cell}

/-- The column was one of floats and became one of texts behind that row. -/
def LeftFloats (c : GrowingColumn) (r : Nat) : Prop :=
  ∃ later, r < later ∧ .converted c.name .float64 later ∈ c.diagnostics

inductive Shows (c : GrowingColumn) (r : Nat) (i : Int) : Cell → Prop
  | int64 (fits : fitsInt64 i = true) (exact : ¬ c.LeftFloats r) : Shows c r i (.int64 i)
  | float64 (exact : ¬ c.LeftFloats r) : Shows c r i (.float64 (.ofInt i))
  | digits (fits : fitsInt64 i = true) (exact : ¬ c.LeftFloats r) :
      Shows c r i (.string (String.ofList (intText i)))
  | rounded (h : fitsInt64 i = false ∨ c.LeftFloats r) :
      Shows c r i (.string (Binary64.ofInt i).plainText)

theorem Step.leftFloats_iff (h : c.Step shown last after) (hshown : c.Shown shown) :
    after.LeftFloats r ↔
      c.LeftFloats r ∨ c.data.type = .float64 ∧ after.data.type = .string ∧ r < c.size := by
  simp only [LeftFloats, h.converted_mem_iff hshown]
  constructor
  · rintro ⟨later, hlater, hmem | ⟨-, hafter, htype, rfl⟩⟩
    · exact .inl ⟨later, hlater, hmem⟩
    · exact .inr ⟨htype.symm, hafter, hlater⟩
  · rintro (⟨later, hlater, hmem⟩ | ⟨htype, hafter, hr⟩)
    · exact ⟨later, hlater, .inl hmem⟩
    · exact ⟨c.size, hr, .inr ⟨by simp [htype], hafter, htype.symm, rfl⟩⟩

/-- A step keeps the cell, or makes an integer a float, or writes the cell as a text. -/
theorem Shows.step (h : c.Shows r i cell) (hcell : c.data.cells[r]? = some (some cell))
    (hstep : c.Step shown last after) (hshown : c.Shown shown) :
    ∃ cell, after.data.cells[r]? = some (some cell) ∧ after.Shows r i cell := by
  have hr : r < c.size := by
    rw [size, ← ColumnData.length_cells]
    exact (List.getElem?_eq_some_iff.mp hcell).1
  have htype : cell.type = c.data.type := ColumnData.type_of_mem_cells (List.mem_of_getElem? hcell)
  have hleft := hstep.leftFloats_iff (r := r) hshown
  obtain ⟨notes, hchange, -⟩ := hstep.change
  have hget {f : Option Cell → Option Cell} (cells : after.data.cells = c.data.cells.map f ++ [last]) :
      after.data.cells[r]? = some (f (some cell)) := by
    rw [cells, List.getElem?_append_left (by simpa [size] using hr), List.getElem?_map, hcell]
    rfl
  cases hchange with
  | kept htype' cells =>
    have hsame : after.LeftFloats r ↔ c.LeftFloats r := by
      rw [hleft, htype']
      grind
    refine ⟨cell, hget (f := id) (by simpa using cells), ?_⟩
    cases h with
    | int64 fits exact => exact .int64 fits (hsame.not.mpr exact)
    | float64 exact => exact .float64 (hsame.not.mpr exact)
    | digits fits exact => exact .digits fits (hsame.not.mpr exact)
    | rounded h => exact .rounded (h.imp_right hsame.mpr)
  | widened before htype' cells =>
    have hsame : after.LeftFloats r ↔ c.LeftFloats r := by
      rw [hleft, before]
      grind
    refine ⟨cell.widen, hget cells, ?_⟩
    cases h with
    | int64 fits exact => exact .float64 (hsame.not.mpr exact)
    | float64 exact | digits fits exact | rounded h => cases htype.trans before
  | converted before htype' cells =>
    refine ⟨.string cell.text, hget cells, ?_⟩
    cases h with
    | int64 fits exact =>
      have hsame : after.LeftFloats r ↔ c.LeftFloats r := by
        rw [hleft, ← htype]
        simp [Cell.type]
      exact .digits fits (hsame.not.mpr exact)
    | float64 exact => exact .rounded (.inr (hleft.mpr (.inr ⟨htype.symm, htype', hr⟩)))
    | digits fits exact | rounded h => exact absurd htype.symm before

theorem shows_append (hformat : c.format = none) (hleft : ¬ c.LeftFloats c.size)
    (h : c.append (.ofInteger i) = .ok after) :
    ∃ cell, after.data.cells[c.size]? = some (some cell) ∧ after.Shows c.size i cell := by
  have hexact {cell : Cell} (hstep : c.Step [] (some cell) after) : ¬ after.LeftFloats c.size := by
    rw [hstep.leftFloats_iff (.inl rfl)]
    grind
  obtain ⟨number, hnumber, h⟩ := Failure.bind_eq_ok_iff.mp h
  rw [JsonNumber.ofText_intText] at hnumber
  cases hfits : fitsInt64 i with
  | true =>
    rw [hfits, if_pos rfl] at hnumber
    cases hnumber
    obtain ⟨cell, hcell, hstep⟩ := step_pushInt h
    refine ⟨cell, hstep.getElem?_last, ?_⟩
    rcases hcell with rfl | rfl | rfl | ⟨format, t, hsome, -, -⟩
    · exact .int64 hfits (hexact hstep)
    · exact .float64 (hexact hstep)
    · exact .digits hfits (hexact hstep)
    · rw [hformat] at hsome
      cases hsome
  | false =>
    rw [hfits, if_neg Bool.false_ne_true] at hnumber
    cases hnumber
    cases h
    obtain ⟨cell, hcell, hstep⟩ := step_pushFloat c (.ofInt i)
    refine ⟨cell, hstep.getElem?_last, ?_⟩
    rcases hcell with rfl | rfl
    · exact .float64 (hexact hstep)
    · exact .rounded (.inl hfits)

namespace Run
variable {name : String} {values : List (Option Value)}

/-- Notes are of rows that the column has. -/
theorem not_leftFloats_size {format : Option TimeFormat} (h : Run name format values c) :
    ¬ c.LeftFloats c.size := by
  induction h with
  | start absent h =>
    obtain ⟨cell, -, rfl⟩ := start_eq_some_iff.mp h
    rintro ⟨later, -, hmem⟩
    cases hmem
  | @append values value c after run h ih =>
    obtain ⟨shown, last, hshown, -, hstep⟩ := step_append h
    rw [(grows_append h).size, hstep.leftFloats_iff hshown]
    rintro (⟨later, hlater, hmem⟩ | ⟨-, -, hlt⟩)
    · exact ih ⟨later, by omega, hmem⟩
    · omega
  | @pad values c run ih =>
    rw [(grows_pad c).size]
    rintro ⟨later, hlater, hmem⟩
    exact ih ⟨later, by omega, hmem⟩

theorem shows (h : Run name none values c) (hvalue : values[r]? = some (some (.ofInteger i))) :
    ∃ cell, c.data.cells[r]? = some (some cell) ∧ c.Shows r i cell := by
  have hlast {before : List (Option Value)} {last : Option Value}
      (hat : (before ++ [last])[r]? = some (some (.ofInteger i))) :
      before[r]? = some (some (.ofInteger i)) ∨ r = before.length ∧ last = some (.ofInteger i) := by
    grind
  induction h with
  | @start before value c absent h =>
    rcases hlast hvalue with hbefore | ⟨rfl, hnow⟩
    · rcases absent _ (List.mem_of_getElem? hbefore) with habsent | habsent <;> cases habsent
    · cases hnow
      obtain ⟨cell, hcell, rfl⟩ := start_eq_some_iff.mp h
      have hexact : ¬ LeftFloats ⟨name, none, .startingWith cell before.length, []⟩ before.length := by
        rintro ⟨later, -, hmem⟩
        cases hmem
      refine ⟨cell, by simp, ?_⟩
      rw [Value.ofInteger, Cell.ofValue, JsonNumber.ofText_intText] at hcell
      cases hfits : fitsInt64 i with
      | true =>
        simp only [hfits, if_pos] at hcell
        cases hcell
        exact .int64 hfits hexact
      | false =>
        simp only [hfits, Bool.false_eq_true, if_false] at hcell
        cases hcell
        exact .float64 hexact
  | @append values value c after run h ih =>
    rcases hlast hvalue with hbefore | ⟨rfl, hnow⟩
    · obtain ⟨cell, hcell, hshows⟩ := ih hbefore
      obtain ⟨shown, last, hshown, -, hstep⟩ := step_append h
      exact hshows.step hcell hstep hshown
    · cases hnow
      rw [← run.size]
      exact shows_append run.named.2 run.not_leftFloats_size h
  | pad run ih =>
    rcases hlast hvalue with hbefore | ⟨rfl, hnow⟩
    · obtain ⟨cell, hcell, hshows⟩ := ih hbefore
      exact hshows.step hcell (step_pad _) (.inl rfl)
    · cases hnow

end Run

end GrowingColumn

namespace Frame
variable {name field : String} {rows : List Row} {formats : Entries TimeFormat} {frame : Frame}
  {column : Column} {texts : List (Option String)} {r : Nat} {row : Row} {i : Int}

def LeftFloats (frame : Frame) (field : String) (r : Nat) : Prop :=
  ∃ later, r < later ∧ .converted field .float64 later ∈ frame.diagnostics

theorem leftFloats_iff {c : GrowingColumn} (hname : c.name = field)
    (hdiagnostics : c.diagnostics = frame.diagnosticsOf field) :
    frame.LeftFloats field r ↔ c.LeftFloats r := by
  simp [LeftFloats, GrowingColumn.LeftFloats, hname, hdiagnostics, diagnosticsOf, Diagnostic.column]

/-- In a column of texts, whatever it held before, the cell of an integer is the text of a number that
is read as the value nearest to the integer. It has the digits of the integer if 64 bits hold it and
the column did not become one of texts from one of floats in a later row, and it is the shortest text
of that nearest value otherwise. Up to 2^53 in size the two texts are one, so there the integer is
shown whatever happened to the column. -/
theorem ofRows_integerText (distinct : ∀ row ∈ rows, row.names.Nodup)
    (h : Frame.ofRows name rows formats = .ok frame) (hformat : formats.find? field = none)
    (hcolumn : frame.column? field = some column) (hdata : column.data = .string texts)
    (hrow : rows[r]? = some row) (hvalue : row.find? field = some (.ofInteger i)) :
    ∃ text, texts[r]? = some (some text) ∧
      Number.readFloat? text.toList = some (.ofInt i) ∧
      (fitsInt64 i = true ∧ ¬ frame.LeftFloats field r → text = String.ofList (intText i)) ∧
      (fitsInt64 i = false ∨ frame.LeftFloats field r → text = (Binary64.ofInt i).plainText) ∧
      (i.natAbs ≤ 2 ^ (53 : Nat) → text = String.ofList (intText i)) := by
  obtain ⟨c, hrun, rfl, hdiagnostics⟩ := exists_run_of_column? distinct h hcolumn
  have hleft := leftFloats_iff (r := r) hrun.named.1 hdiagnostics
  rw [hformat] at hrun
  obtain ⟨cell, hcell, hshows⟩ := hrun.shows (r := r) (i := i) (by simp [hrow, hvalue])
  have hcells : c.data.cells = texts.map (·.map .string) := by
    rw [show c.data = .string texts from hdata]
    rfl
  rw [hcells, List.getElem?_map, Option.map_eq_some_iff] at hcell
  obtain ⟨last, hlast, hsome⟩ := hcell
  obtain ⟨text, rfl, rfl⟩ := Option.map_eq_some_iff.mp hsome
  refine ⟨text, hlast, ?_⟩
  rw [hleft]
  cases hshows with
  | digits fits exact =>
    refine ⟨by rw [String.toList_ofList, Number.readFloat?_intText], fun _ => rfl, ?_, fun _ => rfl⟩
    rintro (hfits | hleft)
    · simp [fits] at hfits
    · exact absurd hleft exact
  | rounded h =>
    refine ⟨?_, ?_, fun _ => rfl, ?_⟩
    · rw [Binary64.plainText, String.toList_ofList, Binary64.readFloat?_text]
    · rintro ⟨fits, exact⟩
      rcases h with h | h
      · simp [fits] at h
      · exact absurd h exact
    · intro hsmall
      rw [Binary64.plainText, Binary64.text_plain_ofInt hsmall]

/-- An integer that is widened to a float and then written as a text. -/
theorem ofRows_integerText_of_widened :
    let rows : List Row :=
      [[("v", .number "12345678901")], [("v", .number "0.125")], [("v", .string "text")]]
    ∃ frame column texts, Frame.ofRows "A" rows [] = .ok frame ∧
      frame.column? "v" = some column ∧ column.data = .string texts ∧
      texts[0]? = some (some "12345678901") := by
  intro rows
  have hbuilt : ((Frame.ofRows "A" rows []).toOption.bind fun frame => frame.column? "v").any
      (·.data.type == .string) = true := by decide +kernel
  obtain ⟨column, hcolumn, htype⟩ := (Option.any_eq_true _ _).mp hbuilt
  obtain ⟨frame, hframe, hcolumn⟩ := Option.bind_eq_some_iff.mp hcolumn
  have hok : Frame.ofRows "A" rows [] = .ok frame := by
    cases hrows : Frame.ofRows "A" rows [] with
    | error failure => simp [hrows, Except.toOption] at hframe
    | ok built => simpa [hrows, Except.toOption] using hframe
  obtain ⟨texts, hdata⟩ : ∃ texts, column.data = .string texts := by
    cases hdata : column.data with
    | string texts => exact ⟨texts, rfl⟩
    | _ => simp [hdata, ColumnData.type] at htype
  obtain ⟨text, htext, -, -, -, hdigits⟩ := ofRows_integerText (r := 0) (i := 12345678901)
    (by decide) hok rfl hcolumn hdata rfl rfl
  refine ⟨frame, column, texts, hok, hcolumn, hdata, ?_⟩
  rw [htext, hdigits (by decide)]
  rfl

/-- Beyond 2^53 an integer that was a float on the way has other digits. -/
theorem ofRows_rounds_widened_integer :
    let rows : List Row :=
      [[("v", .number "9007199254740993")], [("v", .number "0.5")], [("v", .string "text")]]
    ((Frame.ofRows "A" rows []).toOption.bind fun frame => frame.column? "v").map
      (fun column => column.data.cells.map (·.bind Cell.string?)) =
      some [some "9007199254740992", some "0.5", some "text"] := by
  decide +kernel

end Frame

end ItemStore
