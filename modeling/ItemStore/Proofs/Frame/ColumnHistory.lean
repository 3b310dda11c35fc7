import ItemStore.Proofs.Frame.ColumnRun

/-! # The history of a column

Whatever a column is offered, its type moves in one direction only: from integers to floats, and from
anything to texts. Its notes are a record of that, one for each move, together with the values that
could not be shown, in the order of the rows in which it happened.
-/
namespace ItemStore

def ColumnType.Moves (a b : ColumnType) : Prop :=
  a = b ∨ (a = .int64 ∧ b = .float64) ∨ (a ≠ .string ∧ b = .string)

theorem ColumnType.Moves.trans {a b c : ColumnType} (h : a.Moves b) (h' : b.Moves c) : a.Moves c := by
  unfold Moves at *
  grind

namespace Diagnostic

def row : Diagnostic → Nat
  | .widened _ row => row
  | .converted _ _ row => row
  | .replaced _ row _ => row

def IsWidened (d : Diagnostic) : Prop := ∃ column row, d = .widened column row

def IsConverted (d : Diagnostic) : Prop := ∃ column type row, d = .converted column type row

def IsReplaced (d : Diagnostic) : Prop := ∃ column row placeholder, d = .replaced column row placeholder

/-- One note of a column may stand before another: rows do not decrease, a row has two notes only if
its placeholder made the column one of texts, a column is widened once, and behind a conversion there
are only placeholders. -/
structure Precedes (d e : Diagnostic) : Prop where
  row_le : d.row ≤ e.row
  same_row : d.row = e.row → d.IsReplaced ∧ e.IsConverted
  widened : d.IsWidened → ¬ e.IsWidened
  converted : d.IsConverted → e.IsReplaced

end Diagnostic

namespace GrowingColumn

/-- The column after a row: a value is added if it can be, and no value is a null. -/
def offer (c : GrowingColumn) : Option Value → GrowingColumn
  | none => c.pad
  | some value =>
    match c.append value with
    | .ok after => after
    | .error _ => c

def offerAll (c : GrowingColumn) (steps : List (Option Value)) : GrowingColumn := steps.foldl offer c

def stateAt (c : GrowingColumn) (steps : List (Option Value)) (k : Nat) : GrowingColumn :=
  c.offerAll (steps.take k)

def moveNotes (c after : GrowingColumn) : List Diagnostic :=
  (if c.data.type = .int64 ∧ after.data.type = .float64 then [.widened c.name c.size] else []) ++
    if c.data.type ≠ .string ∧ after.data.type = .string then [.converted c.name c.data.type c.size]
    else []

def stepNotes (c : GrowingColumn) (step : Option Value) (after : GrowingColumn) : List Diagnostic :=
  c.replacements (step.bind Value.placeholder?) ++ c.moveNotes after

variable {c after : GrowingColumn} {shown : List Diagnostic} {last : Option Cell}

/-! ### One step -/

theorem Step.moves (h : c.Step shown last after) : c.data.type.Moves after.data.type := by
  obtain ⟨notes, hchange, -⟩ := h.change
  cases hchange with
  | kept type cells => exact .inl type.symm
  | widened before type cells => exact .inr (.inl ⟨before, type⟩)
  | converted before type cells => exact .inr (.inr ⟨before, type⟩)

theorem Step.diagnostics_eq (h : c.Step shown last after) :
    after.diagnostics = c.diagnostics ++ (shown ++ c.moveNotes after) := by
  obtain ⟨notes, hchange, hnotes⟩ := h.change
  have hmove : c.moveNotes after = notes := by
    unfold moveNotes
    cases hchange with
    | kept type cells => rw [if_neg (by grind), if_neg (by grind), List.append_nil]
    | widened before type cells => simp [before, type]
    | converted before type cells => simp [before, type]
  rw [hnotes, hmove, List.append_assoc]

/-- A step that fails leaves the column as it is. Any other adds one cell, which is the placeholder
where there is one. -/
theorem offer_cases (c : GrowingColumn) (step : Option Value) :
    (c.offer step = c ∧ step.bind Value.placeholder? = none) ∨
      ∃ last, c.Step (c.replacements (step.bind Value.placeholder?)) last (c.offer step) ∧
        ∀ placeholder, step.bind Value.placeholder? = some placeholder → ∃ cell,
          last = some cell ∧ (cell = .string placeholder ∨ cell = .json (.string placeholder)) := by
  cases step with
  | none => exact .inr ⟨none, c.step_pad, fun _ h => by cases h⟩
  | some value =>
    rw [offer]
    cases happend : c.append value with
    | ok after =>
      obtain ⟨last, h⟩ := exists_appends happend
      refine .inr ⟨last, h.step, ?_⟩
      intro placeholder hplaceholder
      have hfilled := h.filled
      cases last with
      | none =>
        cases value <;> simp [Value.isNull] at hfilled
        cases hplaceholder
      | some cell => exact ⟨cell, rfl, h.replaced cell rfl placeholder hplaceholder⟩
    | error failure =>
      refine .inl ⟨rfl, ?_⟩
      -- A composite value is never refused.
      cases value with
      | map entries | list items | stringSet items | numberSet items => cases happend
      | _ => rfl

theorem moves_offer (c : GrowingColumn) (step : Option Value) :
    c.data.type.Moves (c.offer step).data.type := by
  rcases c.offer_cases step with ⟨hsame, -⟩ | ⟨last, h, -⟩
  · rw [hsame]
    exact .inl rfl
  · exact h.moves

theorem name_offer (c : GrowingColumn) (step : Option Value) : (c.offer step).name = c.name := by
  rcases c.offer_cases step with ⟨hsame, -⟩ | ⟨last, h, -⟩
  · rw [hsame]
  · exact h.name

theorem diagnostics_offer (c : GrowingColumn) (step : Option Value) :
    (c.offer step).diagnostics = c.diagnostics ++ c.stepNotes step (c.offer step) := by
  rcases c.offer_cases step with ⟨hsame, hshown⟩ | ⟨last, h, -⟩
  · have hmove : c.moveNotes c = [] := by
      rw [moveNotes, if_neg (by grind), if_neg (by grind), List.append_nil]
    rw [hsame, stepNotes, replacements, hshown, hmove]
    simp
  · exact h.diagnostics_eq

/-! ### Whole runs -/

theorem offerAll_append (c : GrowingColumn) (steps more : List (Option Value)) :
    c.offerAll (steps ++ more) = (c.offerAll steps).offerAll more := List.foldl_append

theorem stateAt_succ {steps : List (Option Value)} {k : Nat} {step : Option Value}
    (h : steps[k]? = some step) : c.stateAt steps (k + 1) = (c.stateAt steps k).offer step := by
  obtain ⟨hk, rfl⟩ := List.getElem?_eq_some_iff.mp h
  rw [stateAt, ← List.take_append_getElem hk, offerAll_append]
  rfl

theorem moves_offerAll (c : GrowingColumn) (steps : List (Option Value)) :
    c.data.type.Moves (c.offerAll steps).data.type := by
  induction steps generalizing c with
  | nil => exact .inl rfl
  | cons step rest ih => exact (c.moves_offer step).trans (ih _)

theorem moves_stateAt (c : GrowingColumn) (steps : List (Option Value)) {j k : Nat} (h : j ≤ k) :
    (c.stateAt steps j).data.type.Moves (c.stateAt steps k).data.type := by
  have hsplit := List.take_append_drop j (steps.take k)
  rw [List.take_take, Nat.min_eq_left h] at hsplit
  rw [stateAt, stateAt, ← hsplit, offerAll_append]
  exact moves_offerAll _ _

theorem name_stateAt (c : GrowingColumn) (steps : List (Option Value)) (k : Nat) :
    (c.stateAt steps k).name = c.name := by
  have hall (steps : List (Option Value)) : (c.offerAll steps).name = c.name := by
    induction steps generalizing c with
    | nil => rfl
    | cons step rest ih => exact (ih (c.offer step)).trans (c.name_offer step)
  exact hall _

theorem mem_diagnostics_offerAll (c : GrowingColumn) (steps : List (Option Value)) {d : Diagnostic} :
    d ∈ (c.offerAll steps).diagnostics ↔ d ∈ c.diagnostics ∨ ∃ k step, steps[k]? = some step ∧
      d ∈ (c.stateAt steps k).stepNotes step (c.stateAt steps (k + 1)) := by
  induction steps generalizing c with
  | nil => simp [offerAll]
  | cons step rest ih =>
    have hstate (k : Nat) : c.stateAt (step :: rest) (k + 1) = (c.offer step).stateAt rest k := rfl
    rw [offerAll, List.foldl_cons, ← offerAll, ih, diagnostics_offer, List.mem_append, or_assoc]
    refine or_congr_right ⟨?_, ?_⟩
    · rintro (hfirst | ⟨k, later, hlater, hmem⟩)
      · exact ⟨0, step, rfl, hfirst⟩
      · exact ⟨k + 1, later, hlater, hmem⟩
    · rintro ⟨k, later, hlater, hmem⟩
      cases k with
      | zero =>
        cases hlater
        exact .inl hmem
      | succ k => exact .inr ⟨k, later, hlater, hmem⟩

/-! ### The notes of a step, one kind at a time -/

section
variable {step : Option Value} {column : String} {row : Nat}

theorem widened_mem_stepNotes_iff :
    .widened column row ∈ c.stepNotes step after ↔
      column = c.name ∧ row = c.size ∧ c.data.type = .int64 ∧ after.data.type = .float64 := by
  simp only [stepNotes, replacements, moveNotes, ne_eq, List.mem_append, List.mem_map,
    Option.mem_toList, reduceCtorEq, and_false, exists_const, List.mem_ite_nil_right, List.mem_cons,
    Diagnostic.widened.injEq, List.not_mem_nil, or_false, or_self, false_or]
  grind

theorem converted_mem_stepNotes_iff {type : ColumnType} :
    .converted column type row ∈ c.stepNotes step after ↔
      column = c.name ∧ row = c.size ∧ type = c.data.type ∧ c.data.type ≠ .string ∧
        after.data.type = .string := by
  simp only [stepNotes, replacements, moveNotes, ne_eq, List.mem_append, List.mem_map,
    Option.mem_toList, reduceCtorEq, and_false, exists_const, List.mem_ite_nil_right, List.mem_cons, List.not_mem_nil,
    or_self, Diagnostic.converted.injEq, or_false, false_or]
  grind

theorem replaced_mem_stepNotes_iff {placeholder : String} :
    .replaced column row placeholder ∈ c.stepNotes step after ↔
      column = c.name ∧ row = c.size ∧ step.bind Value.placeholder? = some placeholder := by
  simp only [stepNotes, replacements, moveNotes, ne_eq, List.mem_append, List.mem_map,
    Option.mem_toList, Diagnostic.replaced.injEq, ↓existsAndEq, and_true, List.mem_ite_nil_right, List.mem_cons,
    reduceCtorEq, List.not_mem_nil, or_self, and_false, or_false]
  grind

end

/-! ### The order of the notes -/

/-- What holds of the notes of a column at any time: they are of rows that the column has, its type
shows what they say, and they stand in order. -/
structure InStep (c : GrowingColumn) : Prop where
  row_lt : ∀ d ∈ c.diagnostics, d.row < c.size
  widened : ∀ d ∈ c.diagnostics, d.IsWidened → c.data.type ≠ .int64
  converted : ∀ d ∈ c.diagnostics, d.IsConverted → c.data.type = .string
  ordered : c.diagnostics.Pairwise Diagnostic.Precedes

theorem row_of_mem_stepNotes {step : Option Value} {d : Diagnostic}
    (h : d ∈ c.stepNotes step after) : d.row = c.size := by
  cases d with
  | widened column row => exact (widened_mem_stepNotes_iff.mp h).2.1
  | converted column type row => exact (converted_mem_stepNotes_iff.mp h).2.1
  | replaced column row placeholder => exact (replaced_mem_stepNotes_iff.mp h).2.1

/-- The cell of a value that cannot be shown is its placeholder. -/
theorem exists_cell_of_placeholder {step : Option Value} {placeholder : String}
    (h : step.bind Value.placeholder? = some placeholder) :
    ∃ cell, (cell = .string placeholder ∨ cell = .json (.string placeholder)) ∧
      (c.offer step).data.cells[c.size]? = some (some cell) := by
  rcases c.offer_cases step with ⟨-, hnone⟩ | ⟨last, hstep, hlast⟩
  · rw [hnone] at h
    cases h
  · obtain ⟨cell, rfl, hcell⟩ := hlast placeholder h
    exact ⟨cell, hcell, hstep.getElem?_last⟩

/-- A placeholder and a widening do not come in one row. -/
theorem pairwise_stepNotes (c : GrowingColumn) (step : Option Value) :
    (c.stepNotes step (c.offer step)).Pairwise Diagnostic.Precedes := by
  have hplaceholders :
      (c.replacements (step.bind Value.placeholder?)).Pairwise Diagnostic.Precedes := by
    rw [replacements]
    cases step.bind Value.placeholder? <;> simp
  have hmoves : (c.moveNotes (c.offer step)).Pairwise Diagnostic.Precedes := by
    unfold moveNotes
    split
    · next h => simp [h.2]
    · split <;> simp
  rw [stepNotes, List.pairwise_append]
  refine ⟨hplaceholders, hmoves, ?_⟩
  intro d hd e he
  obtain ⟨placeholder, hplaceholder, rfl⟩ := List.mem_map.mp hd
  obtain ⟨cell, hcell, hat⟩ := c.exists_cell_of_placeholder (Option.mem_toList.mp hplaceholder)
  have htype := ColumnData.type_of_mem_cells (List.mem_of_getElem? hat)
  have he : e = .converted c.name c.data.type c.size := by
    unfold moveNotes at he
    rcases List.mem_append.mp he with he | he
    · rw [if_neg] at he
      · cases he
      · rintro ⟨-, hfloat⟩
        rw [hfloat] at htype
        rcases hcell with rfl | rfl <;> cases htype
    · split at he
      · exact List.mem_singleton.mp he
      · cases he
  subst he
  refine ⟨Nat.le_refl _, fun _ => ⟨⟨_, _, _, rfl⟩, _, _, _, rfl⟩, ?_, ?_⟩
  · rintro ⟨_, _, hwidened⟩
    cases hwidened
  · rintro ⟨_, _, _, hconverted⟩
    cases hconverted

theorem InStep.offer (h : c.InStep) (step : Option Value) : (c.offer step).InStep := by
  rcases c.offer_cases step with ⟨hsame, -⟩ | ⟨last, hstep, -⟩
  · rw [hsame]
    exact h
  have hsize : (c.offer step).size = c.size + 1 := hstep.grows.size
  have hmoves := c.moves_offer step
  -- A note of the step that is no placeholder says what the type was and what it is now.
  have hnew {d : Diagnostic} (hd : d ∈ c.stepNotes step (c.offer step)) :
      (d.IsWidened → c.data.type = .int64 ∧ (c.offer step).data.type = .float64) ∧
      (d.IsConverted → c.data.type ≠ .string ∧ (c.offer step).data.type = .string) := by
    constructor
    · rintro ⟨column, row, rfl⟩
      exact (widened_mem_stepNotes_iff.mp hd).2.2
    · rintro ⟨column, type, row, rfl⟩
      exact (converted_mem_stepNotes_iff.mp hd).2.2.2
  constructor
  · intro d hd
    rw [diagnostics_offer, List.mem_append] at hd
    rw [hsize]
    rcases hd with hd | hd
    · exact Nat.lt_succ_of_lt (h.row_lt d hd)
    · rw [row_of_mem_stepNotes hd]
      exact Nat.lt_succ_self _
  · intro d hd hwidened
    rw [diagnostics_offer, List.mem_append] at hd
    rcases hd with hd | hd
    · have hbefore := h.widened d hd hwidened
      unfold ColumnType.Moves at hmoves
      grind
    · rw [((hnew hd).1 hwidened).2]
      decide
  · intro d hd hconverted
    rw [diagnostics_offer, List.mem_append] at hd
    rcases hd with hd | hd
    · have hbefore := h.converted d hd hconverted
      unfold ColumnType.Moves at hmoves
      grind
    · exact ((hnew hd).2 hconverted).2
  · rw [diagnostics_offer, List.pairwise_append]
    refine ⟨h.ordered, c.pairwise_stepNotes step, ?_⟩
    intro d hd e he
    have hrow : d.row < e.row := by
      rw [row_of_mem_stepNotes he]
      exact h.row_lt d hd
    refine ⟨Nat.le_of_lt hrow, fun hsame => absurd hsame (Nat.ne_of_lt hrow), ?_, ?_⟩
    · intro hwidened hagain
      exact h.widened d hd hwidened ((hnew he).1 hagain).1
    · intro hconverted
      have htype := h.converted d hd hconverted
      cases e with
      | widened column row => simp [((hnew he).1 ⟨_, _, rfl⟩).1] at htype
      | converted column type row => exact absurd htype ((hnew he).2 ⟨_, _, _, rfl⟩).1
      | replaced column row placeholder => exact ⟨_, _, _, rfl⟩

theorem InStep.offerAll (h : c.InStep) (steps : List (Option Value)) : (c.offerAll steps).InStep := by
  induction steps generalizing c with
  | nil => exact h
  | cons step rest ih => exact ih (h.offer step)

theorem inStep_of_diagnostics_eq_nil (h : c.diagnostics = []) : c.InStep := by
  constructor <;> simp [h]

/-! ### From the start -/

section Start
variable {row : Nat} {name column : String} {first : Value} {format : Option TimeFormat}

theorem name_stateAt_of_start (h : start row name first format = .ok (some c))
    (steps : List (Option Value)) (k : Nat) : (c.stateAt steps k).name = name := by
  obtain ⟨cell, -, rfl⟩ := start_eq_some_iff.mp h
  exact name_stateAt _ _ _

theorem diagnostics_eq_nil_of_start (h : start row name first format = .ok (some c)) :
    c.diagnostics = [] := by
  obtain ⟨cell, -, rfl⟩ := start_eq_some_iff.mp h
  rfl

theorem mem_diagnostics_of_start (h : start row name first format = .ok (some c))
    (steps : List (Option Value)) {d : Diagnostic} :
    d ∈ (c.offerAll steps).diagnostics ↔ ∃ k step, steps[k]? = some step ∧
      d ∈ (c.stateAt steps k).stepNotes step (c.stateAt steps (k + 1)) := by
  rw [mem_diagnostics_offerAll, diagnostics_eq_nil_of_start h]
  simp

theorem widened_mem_of_start (h : start row name first format = .ok (some c))
    (steps : List (Option Value)) (r : Nat) :
    .widened column r ∈ (c.offerAll steps).diagnostics ↔
      column = name ∧ ∃ k < steps.length, (c.stateAt steps k).size = r ∧
        (c.stateAt steps k).data.type = .int64 ∧ (c.stateAt steps (k + 1)).data.type = .float64 := by
  simp only [mem_diagnostics_of_start h, widened_mem_stepNotes_iff, name_stateAt_of_start h]
  constructor
  · rintro ⟨k, step, hk, hcolumn, hr, hmove⟩
    exact ⟨hcolumn, k, (List.getElem?_eq_some_iff.mp hk).1, hr.symm, hmove⟩
  · rintro ⟨hcolumn, k, hk, hr, hmove⟩
    exact ⟨k, steps[k], List.getElem?_eq_getElem hk, hcolumn, hr.symm, hmove⟩

theorem converted_mem_of_start (h : start row name first format = .ok (some c))
    (steps : List (Option Value)) (type : ColumnType) (r : Nat) :
    .converted column type r ∈ (c.offerAll steps).diagnostics ↔
      column = name ∧ ∃ k < steps.length, (c.stateAt steps k).size = r ∧
        (c.stateAt steps k).data.type = type ∧ type ≠ .string ∧
        (c.stateAt steps (k + 1)).data.type = .string := by
  simp only [mem_diagnostics_of_start h, converted_mem_stepNotes_iff, name_stateAt_of_start h]
  constructor
  · rintro ⟨k, step, hk, hcolumn, hr, rfl, hmove⟩
    exact ⟨hcolumn, k, (List.getElem?_eq_some_iff.mp hk).1, hr.symm, rfl, hmove⟩
  · rintro ⟨hcolumn, k, hk, hr, rfl, hmove⟩
    exact ⟨k, steps[k], List.getElem?_eq_getElem hk, hcolumn, hr.symm, rfl, hmove⟩

theorem replaced_mem_of_start (h : start row name first format = .ok (some c))
    (steps : List (Option Value)) (r : Nat) (placeholder : String) :
    .replaced column r placeholder ∈ (c.offerAll steps).diagnostics ↔
      column = name ∧ ∃ k value failure, steps[k]? = some (some value) ∧
        (c.stateAt steps k).size = r ∧ value.isComposite = true ∧ value.toJson = .error failure ∧
        placeholder = value.kind.placeholder := by
  simp only [mem_diagnostics_of_start h, replaced_mem_stepNotes_iff, name_stateAt_of_start h]
  constructor
  · rintro ⟨k, step, hk, hcolumn, hr, hreplaced⟩
    obtain ⟨value, rfl, hvalue⟩ := Option.bind_eq_some_iff.mp hreplaced
    obtain ⟨hcomposite, ⟨failure, hfailure⟩, hkind⟩ := Value.placeholder?_eq_some_iff.mp hvalue
    exact ⟨hcolumn, k, value, failure, hk, hr.symm, hcomposite, hfailure, hkind⟩
  · rintro ⟨hcolumn, k, value, failure, hk, hr, hcomposite, hfailure, hkind⟩
    refine ⟨k, some value, hk, hcolumn, hr.symm, ?_⟩
    exact Value.placeholder?_eq_some_iff.mpr ⟨hcomposite, ⟨failure, hfailure⟩, hkind⟩

end Start

/-- A column that is begun and then offered values and nulls in any number and order, refused ones
included. Its type moves from integers to floats or to texts only, and stays what it is once it is
texts. A widening is noted at a row exactly if the step at that row made integers floats, a conversion
exactly if the step at that row made the type it names texts, and a placeholder exactly if the value of
that row is a composite one that cannot be shown, and then the placeholder is the cell. The notes are
in the order of the rows, with one widening at most and one conversion at most, the widening first. -/
theorem history_of_start {row : Nat} {name : String} {first : Value} {format : Option TimeFormat}
    (h : start row name first format = .ok (some c)) (steps : List (Option Value)) :
    (∀ j k, j ≤ k → (c.stateAt steps j).data.type.Moves (c.stateAt steps k).data.type) ∧
    (∀ column r, .widened column r ∈ (c.offerAll steps).diagnostics ↔
      column = name ∧ ∃ k < steps.length, (c.stateAt steps k).size = r ∧
        (c.stateAt steps k).data.type = .int64 ∧ (c.stateAt steps (k + 1)).data.type = .float64) ∧
    (∀ column type r, .converted column type r ∈ (c.offerAll steps).diagnostics ↔
      column = name ∧ ∃ k < steps.length, (c.stateAt steps k).size = r ∧
        (c.stateAt steps k).data.type = type ∧ type ≠ .string ∧
        (c.stateAt steps (k + 1)).data.type = .string) ∧
    (∀ column r placeholder, .replaced column r placeholder ∈ (c.offerAll steps).diagnostics ↔
      column = name ∧ ∃ k value failure, steps[k]? = some (some value) ∧
        (c.stateAt steps k).size = r ∧ value.isComposite = true ∧ value.toJson = .error failure ∧
        placeholder = value.kind.placeholder) ∧
    (∀ k value failure, steps[k]? = some (some value) → value.isComposite = true →
      value.toJson = .error failure →
      ∃ cell, (cell = .string value.kind.placeholder ∨ cell = .json (.string value.kind.placeholder)) ∧
        (c.stateAt steps (k + 1)).data.cells[(c.stateAt steps k).size]? = some (some cell)) ∧
    (c.offerAll steps).diagnostics.Pairwise Diagnostic.Precedes := by
  have hstart := inStep_of_diagnostics_eq_nil (diagnostics_eq_nil_of_start h)
  refine ⟨fun j k hjk => c.moves_stateAt steps hjk, fun column r => widened_mem_of_start h steps r,
    fun column type r => converted_mem_of_start h steps type r,
    fun column r placeholder => replaced_mem_of_start h steps r placeholder, ?_,
    (hstart.offerAll steps).ordered⟩
  intro k value failure hk hcomposite hfailure
  rw [stateAt_succ hk]
  apply exists_cell_of_placeholder
  exact Value.placeholder?_eq_some_iff.mpr ⟨hcomposite, ⟨failure, hfailure⟩, rfl⟩

/-- A decimal number, no value, a refused one, and a set that is no set of numbers. -/
theorem history_of_start_of_replaced :
    let c : GrowingColumn := { name := "n", format := none, data := .int64 [none, some 1] }
    let steps : List (Option Value) :=
      [some (.number "0.5"), none, some (.number "x"), some (.numberSet ["x"])]
    start 1 "n" (.number "1") none = .ok (some c) ∧
      .widened "n" 2 ∈ (c.offerAll steps).diagnostics ∧
      .replaced "n" 4 "[NS]" ∈ (c.offerAll steps).diagnostics ∧
      .converted "n" .float64 4 ∈ (c.offerAll steps).diagnostics ∧
      (c.offerAll steps).diagnostics.Pairwise Diagnostic.Precedes := by
  intro c steps
  have hstart : start 1 "n" (.number "1") none = .ok (some c) := rfl
  obtain ⟨-, hwidened, hconverted, hreplaced, -, hordered⟩ := history_of_start hstart steps
  refine ⟨hstart, ?_, ?_, ?_, hordered⟩
  · exact (hwidened _ _).mpr ⟨rfl, 0, by decide, rfl, rfl, by decide +kernel⟩
  · exact (hreplaced _ _ _).mpr ⟨rfl, 3, _, _, rfl, by decide +kernel, rfl, rfl, rfl⟩
  · refine (hconverted _ _ _).mpr ⟨rfl, 3, by decide, ?_, ?_, by decide, ?_⟩ <;> decide +kernel

end GrowingColumn

end ItemStore
