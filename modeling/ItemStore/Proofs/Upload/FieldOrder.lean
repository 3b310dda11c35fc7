import ItemStore.Proofs.Entries
import ItemStore.Proofs.Upload.GeneratedText

/-! # The order of the fields does not show

An item keeps its fields in the order in which the caller wrote them. All that a statement is made
of are the sorted names and the values found under them, and neither tells this order. So two items
with the same fields make the same statement, or are refused with the same failure.
-/
namespace ItemStore

theorem Entries.find?_eq_of_perm {α : Type} {entries others : Entries α} (h : others.Perm entries)
    (distinct : entries.names.Nodup) (name : String) : others.find? name = entries.find? name := by
  rw [← find?_only others, only_eq_of_perm h distinct, find?_only]

namespace Upload

/-- What is made of the fields sees the same in both items: the names in order, and the value under
each name. -/
structure SameFields (item other : Item) : Prop where
  names : sortedNames item = sortedNames other
  values : ∀ name, item.find? name = other.find? name

section Sorting
variable {item other : Item}

theorem sortedNames_eq_of_perm (h : item.names.Perm other.names) :
    sortedNames item = sortedNames other := by
  have hperm : (sortedNames item).Perm (sortedNames other) :=
    (sortedNames_perm item).trans (h.trans (sortedNames_perm other).symm)
  refine hperm.eq_of_pairwise ?_ (sortedNames_ascending item) (sortedNames_ascending other)
  intro a b _ _ hab hba
  exact Std.le_antisymm hab hba

theorem sameFields_of_perm (h : item.Perm other) (distinct : other.names.Nodup) :
    SameFields item other where
  names := sortedNames_eq_of_perm (h.map Prod.fst)
  values := Entries.find?_eq_of_perm h distinct

end Sorting

namespace SameFields
variable {p : Preset} {item other : Item}

theorem isEmpty_eq (h : SameFields item other) : item.isEmpty = other.isEmpty := by
  have hlength := congrArg List.length h.names
  rw [(sortedNames_perm item).length_eq, (sortedNames_perm other).length_eq] at hlength
  simp only [Entries.names, List.length_map] at hlength
  rw [Bool.eq_iff_iff, List.isEmpty_iff, List.isEmpty_iff, ← List.length_eq_zero_iff, hlength,
    List.length_eq_zero_iff]

theorem fieldValue_eq (h : SameFields item other) : fieldValue item = fieldValue other := by
  funext name
  rw [fieldValue, fieldValue, h.values]

/-- The parameters and what the preview shows are taken by name. -/
theorem statementOf_eq (h : SameFields item other) (text : (String → List Char) → List Char)
    (names : List String) : statementOf text names item = statementOf text names other := by
  have hshown : shownValue item = shownValue other := by
    funext name
    rw [shownValue, shownValue, h.fieldValue_eq]
  unfold statementOf fieldParameters
  rw [hshown, h.fieldValue_eq]

theorem buildInsert_eq (h : SameFields item other) : buildInsert p item = buildInsert p other := by
  unfold buildInsert
  simp only [h.isEmpty_eq, h.names, h.statementOf_eq]

/-- Which fields are keys is decided name by name, and the sorted names are the same. -/
theorem buildUpdate_eq (h : SameFields item other) : buildUpdate p item = buildUpdate p other := by
  unfold buildUpdate
  simp only [h.isEmpty_eq, h.names, h.statementOf_eq]

theorem buildDelete_eq (h : SameFields item other) : buildDelete p item = buildDelete p other := by
  unfold buildDelete
  simp only [h.isEmpty_eq, h.names, h.statementOf_eq]

theorem buildSelect_eq (h : SameFields item other) : buildSelect p item = buildSelect p other := by
  unfold buildSelect
  simp only [h.names, h.statementOf_eq]

/-- The parameters follow the schema, so the first field that is refused is the same as well. -/
theorem templateParameters_eq (h : SameFields item other) (fields : List Field) :
    templateParameters item fields = templateParameters other fields := by
  induction fields with
  | nil => rfl
  | cons f rest ih =>
    have hparameter : templateParameter item f = templateParameter other f := by
      unfold templateParameter
      rw [h.values]
    rw [templateParameters, templateParameters, hparameter, ih]

theorem buildTemplated_eq (h : SameFields item other) (template : String) :
    buildTemplated p template item = buildTemplated p template other := by
  unfold buildTemplated
  rw [h.templateParameters_eq]

theorem buildStatement_eq (h : SameFields item other) :
    buildStatement p item = buildStatement p other := by
  unfold buildStatement
  split
  · exact h.buildInsert_eq
  · exact h.buildUpdate_eq
  · exact h.buildDelete_eq
  · exact h.buildSelect_eq
  · rfl
  · exact h.buildTemplated_eq _

end SameFields

/-- Items with the same fields in any two orders make the same statement with the same parameters and
preview, or the same failure. -/
theorem buildStatement_perm (p : Preset) {item other : Item} (h : item.Perm other)
    (distinct : item.names.Nodup) : buildStatement p item = buildStatement p other := by
  apply SameFields.buildStatement_eq
  apply sameFields_of_perm h
  exact (h.map Prod.fst).nodup distinct

/-- An update of three fields, read from either end. -/
theorem buildStatement_perm_of_reversed :
    let p : Preset :=
      { table := "t", operation := .update, schema := [{ name := "id", required := true }] }
    let item : Item := [("note", .string "n"), ("id", .ofInt 7), ("at", .null)]
    item.Perm item.reverse ∧ item.names.Nodup ∧ item ≠ item.reverse ∧
      buildStatement p item = buildStatement p item.reverse ∧
      ∃ built, buildStatement p item.reverse = .ok built ∧
        built.statement = "UPDATE \"t\" SET 'at'=?, 'note'=? WHERE 'id'=?" ∧
        built.parameters = [.null, .string "n", .number "7"] := by
  intro p item
  have hperm : item.Perm item.reverse := (List.reverse_perm item).symm
  have hdistinct : item.names.Nodup := by decide
  have hsame := buildStatement_perm p hperm hdistinct
  have hnames : sortedNames item = ["at", "id", "note"] := by
    simp [sortedNames, item, List.mergeSort]
  have hbuilt : buildStatement p item =
      .ok (statementOf (updateText p.table ["at", "note"] ["id"]) ["at", "note", "id"] item) := by
    rw [buildStatement_of_update rfl (by decide), buildUpdate_eq_ok_iff hnames]
    exact ⟨by decide, by decide, rfl⟩
  have hmoved : item ≠ item.reverse := fun h => by simp [item] at h
  exact ⟨hperm, hdistinct, hmoved, hsame, _, hsame ▸ hbuilt, by decide +kernel, rfl⟩

end Upload

end ItemStore
