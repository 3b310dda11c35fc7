import ItemStore.Proofs.Json.TakenValue
import ItemStore.Proofs.Value.Readable
import ItemStore.Proofs.Value.WireRoundTrip

/-! # The plain form of a value

The wire form of a value names a kind at each level, so the plain form is nested half as deep. It has
each field once where the value has each name once, and it can be written and taken again.
-/
namespace ItemStore

namespace Json
variable {levels : Nat}

theorem taken_string (s : String) (levels : Nat) : (Json.string s).Taken levels :=
  ⟨.string s, trivial, Nat.zero_le _⟩

theorem taken_number {n : JsonNumber} (h : n.InRange) (levels : Nat) : (Json.number n).Taken levels :=
  ⟨.number h, trivial, Nat.zero_le _⟩

end Json

namespace Value
open Json (itemsDepth fieldsDepth)
variable {levels : Nat} {json : Json}

theorem taken_of_numberToJson {text : String} (h : numberToJson text = .ok json) (levels : Nat) :
    json.Taken levels := by
  obtain ⟨n, -, hrange, rfl⟩ := numberToJson_eq_ok_iff.mp h
  exact Json.taken_number hrange levels

theorem taken_of_numbersToJson {texts : List String} {js : List Json}
    (h : numbersToJson texts = .ok js) : ∀ j ∈ js, j.Taken levels := by
  induction texts generalizing js with
  | nil =>
    cases h
    simp
  | cons text rest ih =>
    obtain ⟨first, hfirst, h⟩ := Failure.bind_eq_ok_iff.mp h
    obtain ⟨others, hothers, h⟩ := Failure.bind_eq_ok_iff.mp h
    cases h
    exact List.forall_mem_cons.mpr ⟨taken_of_numberToJson hfirst levels, ih hothers⟩

mutual

/-- A level of the plain form takes two of the wire form, and the innermost name of a kind one more. -/
theorem taken_of_toJson {v : Value} {levels : Nat} {json : Json} (distinct : v.Distinct)
    (hdepth : v.toWire.depth ≤ 2 * levels + 1) (h : v.toJson = .ok json) : json.Taken levels := by
  match v with
  | .string s =>
    cases h
    exact Json.taken_string _ levels
  | .number n => exact taken_of_numberToJson h levels
  | .binary bytes =>
    cases h
    exact Json.taken_string _ levels
  | .bool b =>
    cases h
    exact ⟨.bool b, trivial, Nat.zero_le _⟩
  | .null =>
    cases h
    exact ⟨.null, trivial, Nat.zero_le _⟩
  | .list items =>
    simp only [toWire, Json.depth, fieldsDepth] at hdepth
    obtain ⟨levels, rfl⟩ : ∃ k, levels = k + 1 := ⟨levels - 1, by omega⟩
    obtain ⟨js, hjs, rfl⟩ := Failure.map_eq_ok_iff.mp h
    exact .array (taken_of_toJsonItems distinct (by omega) hjs)
  | .map entries =>
    simp only [toWire, Json.depth, fieldsDepth] at hdepth
    obtain ⟨levels, rfl⟩ : ∃ k, levels = k + 1 := ⟨levels - 1, by omega⟩
    obtain ⟨fields, hfields, rfl⟩ := Failure.map_eq_ok_iff.mp h
    have hentries : fieldsDepth (toWireEntries entries) ≤ 2 * levels + 1 := by omega
    obtain ⟨hnames, htaken⟩ := taken_of_toJsonEntries distinct.2 hentries hfields
    exact .object (hnames ▸ distinct.1) htaken
  | .numberSet items =>
    simp only [toWire, Json.depth, fieldsDepth] at hdepth
    obtain ⟨levels, rfl⟩ : ∃ k, levels = k + 1 := ⟨levels - 1, by omega⟩
    obtain ⟨js, hjs, rfl⟩ := Failure.map_eq_ok_iff.mp h
    exact .array (taken_of_numbersToJson hjs)
  | .stringSet items | .binarySet items =>
    simp only [toWire, Json.depth, fieldsDepth] at hdepth
    obtain ⟨levels, rfl⟩ : ∃ k, levels = k + 1 := ⟨levels - 1, by omega⟩
    cases h
    refine .array ?_
    rw [List.forall_mem_map]
    exact fun _ _ => Json.taken_string _ levels

theorem taken_of_toJsonItems {items : List Value} {levels : Nat} {js : List Json}
    (distinct : DistinctItems items) (hdepth : itemsDepth (toWireItems items) ≤ 2 * levels + 1)
    (h : toJsonItems items = .ok js) : ∀ j ∈ js, j.Taken levels := by
  match items with
  | [] =>
    cases h
    simp
  | item :: rest =>
    obtain ⟨first, hfirst, h⟩ := Failure.bind_eq_ok_iff.mp h
    obtain ⟨others, hothers, h⟩ := Failure.bind_eq_ok_iff.mp h
    cases h
    obtain ⟨hitem, hrest⟩ := Nat.max_le.mp hdepth
    exact List.forall_mem_cons.mpr
      ⟨taken_of_toJson distinct.1 hitem hfirst, taken_of_toJsonItems distinct.2 hrest hothers⟩

theorem taken_of_toJsonEntries {entries : List (String × Value)} {levels : Nat}
    {fields : List (String × Json)} (distinct : DistinctEntries entries)
    (hdepth : fieldsDepth (toWireEntries entries) ≤ 2 * levels + 1)
    (h : toJsonEntries entries = .ok fields) :
    Entries.names fields = Entries.names entries ∧ ∀ field ∈ fields, field.2.Taken levels := by
  match entries with
  | [] =>
    cases h
    simp
  | (name, v) :: rest =>
    obtain ⟨first, hfirst, h⟩ := Failure.bind_eq_ok_iff.mp h
    obtain ⟨others, hothers, h⟩ := Failure.bind_eq_ok_iff.mp h
    cases h
    obtain ⟨hv, hrest⟩ := Nat.max_le.mp hdepth
    obtain ⟨hnames, htaken⟩ := taken_of_toJsonEntries distinct.2 hrest hothers
    refine ⟨?_, List.forall_mem_cons.mpr ⟨taken_of_toJson distinct.1 hv hfirst, htaken⟩⟩
    rw [Entries.names_cons, Entries.names_cons, hnames]

end

end Value

end ItemStore
