import ItemStore.Frame.Cell
import ItemStore.Time.Format
import ItemStore.Value.Generic

/-! # Values as cells

The first value of an attribute decides what its column holds. A hint turns texts or whole numbers
into times.
-/
namespace ItemStore
open Number (readInt64? readFloat?)

/-- The number that a number text denotes: an integer where 64 bits hold it, else a float. -/
def JsonNumber.ofText (text : String) : Except Failure JsonNumber :=
  match readInt64? text.toList, readFloat? text.toList with
  | some i, _ => .ok (.int i)
  | none, some x => .ok (.float x)
  | none, none => .error (.decode ("parsing number " ++ Text.quoted text ++ ": invalid syntax"))

namespace Cell

/-- The cell of a value; a null has none. -/
def ofValue (value : Value) (format : Option TimeFormat) : Except Failure (Option Cell) :=
  match value with
  | .string s =>
    match format with
    | some (.layout hint) => do
      let t ← (TimeFormat.layout hint).readText s
      .ok (some (.time t))
    | _ => .ok (some (.string s))
  | .number n => do
    match ← JsonNumber.ofText n, format with
    | .int i, some format => do
      let t ← format.readEpoch i
      .ok (some (.time t))
    | .int i, none => .ok (some (.int64 i))
    | .float x, _ => .ok (some (.float64 x))
  | .binary _ => .ok (some (.string ValueKind.binary.placeholder))
  | .binarySet _ => .ok (some (.string ValueKind.binarySet.placeholder))
  | .bool b => .ok (some (.bool b))
  | .null => .ok none
  | value => value.toJson.map fun json => some (.json json)

/-- Only a null has no cell. -/
theorem isNone_of_ofValue {value : Value} {format : Option TimeFormat} {cell : Option Cell}
    (h : ofValue value format = .ok cell) : cell.isNone = value.isNull := by
  cases value with
  | string s =>
    simp only [ofValue] at h
    split at h
    · obtain ⟨t, -, h⟩ := Failure.bind_eq_ok_iff.mp h
      cases h
      rfl
    · cases h
      rfl
  | number n =>
    obtain ⟨number, -, h⟩ := Failure.bind_eq_ok_iff.mp h
    split at h
    · obtain ⟨t, -, h⟩ := Failure.bind_eq_ok_iff.mp h
      cases h
      rfl
    · cases h
      rfl
    · cases h
      rfl
  | binary bytes | binarySet items | bool b | null =>
    cases h
    rfl
  | map entries | list items | stringSet items | numberSet items =>
    simp only [ofValue] at h
    obtain ⟨json, -, rfl⟩ := Failure.map_eq_ok_iff.mp h
    rfl

end Cell

end ItemStore
