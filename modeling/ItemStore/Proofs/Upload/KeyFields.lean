import ItemStore.Proofs.Upload.GeneratedText
import ItemStore.Upload.Plan

/-! # Keys are matched, other fields are assigned

An update looks a record up by its keys and assigns the other fields. The schema says which are the
keys: the fields that it requires, and those named as primary keys. What decides about a field of an
item is the first field of its name in the schema, so the keys are told right exactly if no optional
field stands before a required one of the same name.
-/
namespace ItemStore.Upload

/-- The schema requires a field of that name, or has one that is named as a primary key. -/
def Preset.Identifies (p : Preset) (name : String) : Prop :=
  ∃ f ∈ p.schema, f.name = name ∧ (f.required = true ∨ name = "PK" ∨ name = "SK")

/-- The schema requires a field of that name, but an optional one of the same name comes first. -/
def Preset.Shadows (p : Preset) (name : String) : Prop :=
  name ≠ "PK" ∧ name ≠ "SK" ∧ (∃ f ∈ p.schema, f.name = name ∧ f.required = true) ∧
    ∃ f, p.field? name = some f ∧ f.required = false

/-- The fields of an item that identify a record are matched and never assigned, its other fields are
assigned and never matched, and no required field is left out. -/
structure MatchesKeys (p : Preset) (item : Item) (assigned matched : List String) : Prop where
  keys : ∀ name ∈ item.names, p.Identifies name → name ∈ matched ∧ name ∉ assigned
  others : ∀ name ∈ item.names, ¬ p.Identifies name → name ∈ assigned ∧ name ∉ matched
  required : ∀ f ∈ p.schema, f.required = true → f.name ≠ "" → f.name ∈ matched

section Schema
variable {p : Preset} {item : Item} {name : String}

/-- Every required field is looked for, wherever it stands in the schema. -/
theorem mem_names_of_validateItem (h : validateItem p item = .ok ()) {f : Field} (hf : f ∈ p.schema)
    (hrequired : f.required = true) (hname : f.name ≠ "") : f.name ∈ item.names := by
  have hschema : ¬ p.schema.isEmpty = true := by
    rw [List.isEmpty_iff]
    exact List.ne_nil_of_mem hf
  rw [validateItem, if_neg hschema] at h
  split at h
  · cases h
  · next hnone =>
    have hheld := List.find?_eq_none.mp hnone f hf
    rw [← Entries.has_iff_mem]
    simpa [hname, hrequired] using hheld

theorem isKeyField_iff : isKeyField p name = true ↔
    ∃ f, p.field? name = some f ∧ (f.required = true ∨ name = "PK" ∨ name = "SK") := by
  unfold isKeyField
  cases p.field? name with
  | none => simp
  | some f => simp [or_assoc]

theorem field?_eq_some {f : Field} (h : p.field? name = some f) : f ∈ p.schema ∧ f.name = name := by
  have hname := List.find?_some h
  exact ⟨List.mem_of_find?_eq_some h, by simpa using hname⟩

theorem exists_field?_of_mem {f : Field} (hf : f ∈ p.schema) (hname : f.name = name) :
    ∃ first, p.field? name = some first := by
  rw [← Option.isSome_iff_exists, Preset.field?, List.find?_isSome]
  exact ⟨f, hf, by simpa using hname⟩

theorem identifies_of_isKeyField (h : isKeyField p name = true) : p.Identifies name := by
  obtain ⟨f, hfirst, hkey⟩ := isKeyField_iff.mp h
  obtain ⟨hf, hname⟩ := field?_eq_some hfirst
  exact ⟨f, hf, hname, hkey⟩

/-- A field that identifies a record is not taken for a key only if its name is shadowed. -/
theorem shadows_iff : p.Shadows name ↔ p.Identifies name ∧ isKeyField p name = false := by
  constructor
  · rintro ⟨hpk, hsk, ⟨f, hf, hname, hrequired⟩, first, hfirst, hoptional⟩
    refine ⟨⟨f, hf, hname, .inl hrequired⟩, ?_⟩
    simp [isKeyField, hfirst, hoptional, hpk, hsk]
  · rintro ⟨⟨f, hf, hname, hkey⟩, hnot⟩
    obtain ⟨first, hfirst⟩ := exists_field?_of_mem hf hname
    have hparts : first.required = false ∧ name ≠ "PK" ∧ name ≠ "SK" := by
      simpa [isKeyField, hfirst, and_assoc] using hnot
    obtain ⟨hoptional, hpk, hsk⟩ := hparts
    have hrequired : f.required = true := by simpa [hpk, hsk] using hkey
    exact ⟨hpk, hsk, ⟨f, hf, hname, hrequired⟩, first, hfirst, hoptional⟩

end Schema

section Updates
variable {p : Preset} {item : Item} {built : BuiltStatement} {assigned matched : List String}

/-- A field is in one part of an update alone, by the first field of its name in the schema. -/
theorem ReadBack.parts (h : ReadBack p item assigned matched built) (hop : p.operation = .update)
    {name : String} (hname : name ∈ item.names) :
    (name ∈ matched ↔ isKeyField p name = true) ∧ (name ∈ assigned ↔ isKeyField p name = false) := by
  have hmem : name ∈ assigned ∨ name ∈ matched := by
    rw [← List.mem_append]
    exact h.fields.mem_iff.mpr hname
  have hkey := h.others_of_update hop name
  have hother (ha : name ∈ assigned) := (h.assigned_of_update name ha).2
  constructor
  · refine ⟨hkey, fun hk => hmem.resolve_left fun ha => ?_⟩
    rw [hother ha] at hk
    cases hk
  · refine ⟨hother, fun hk => hmem.resolve_right fun hm => ?_⟩
    rw [hkey hm] at hk
    cases hk

/-- The keys of an update are matched exactly if none of them is shadowed. -/
theorem matchesKeys_iff (h : ReadBack p item assigned matched built) (hop : p.operation = .update)
    (hvalid : validateItem p item = .ok ()) :
    MatchesKeys p item assigned matched ↔ ∀ name ∈ item.names, ¬ p.Shadows name := by
  constructor
  · intro hmatches name hname hshadows
    obtain ⟨hidentifies, hnot⟩ := shadows_iff.mp hshadows
    have hmatched := (hmatches.keys name hname hidentifies).1
    rw [(h.parts hop hname).1, hnot] at hmatched
    cases hmatched
  · intro hnone
    have hkey (name : String) (hname : name ∈ item.names) (hidentifies : p.Identifies name) :
        isKeyField p name = true := by
      cases hkey : isKeyField p name with
      | true => rfl
      | false => exact absurd (shadows_iff.mpr ⟨hidentifies, hkey⟩) (hnone name hname)
    refine ⟨?keys, ?others, ?required⟩
    case keys =>
      intro name hname hidentifies
      obtain ⟨hmatched, hassigned⟩ := h.parts hop hname
      simp [hmatched, hassigned, hkey name hname hidentifies]
    case others =>
      intro name hname hother
      obtain ⟨hmatched, hassigned⟩ := h.parts hop hname
      have hnot : isKeyField p name = false :=
        Bool.eq_false_iff.mpr fun hkey => hother (identifies_of_isKeyField hkey)
      simp [hmatched, hassigned, hnot]
    case required =>
      intro f hf hrequired hname
      -- the item was not accepted without the field, so the field is one of the names that are parted
      have hmem := mem_names_of_validateItem hvalid hf hrequired hname
      rw [(h.parts hop hmem).1]
      exact hkey f.name hmem ⟨f, hf, rfl, .inl hrequired⟩

end Updates

/-- An update of an item that fits the schema assigns some fields and matches others. These are the
keys, unless the schema requires a field of the item behind an optional one of the same name. -/
theorem buildStatement_matchesKeys {p : Preset} {item : Item} {built : BuiltStatement}
    (hop : p.operation = .update) (htemplate : p.template? = none)
    (hvalid : validateItem p item = .ok ()) (h : buildStatement p item = .ok built) :
    ∃ assigned matched, ReadBack p item assigned matched built ∧ assigned ≠ [] ∧ matched ≠ [] ∧
      (MatchesKeys p item assigned matched ↔ ∀ name ∈ item.names, ¬ p.Shadows name) := by
  rw [buildStatement_of_update hop htemplate] at h
  obtain ⟨hkeys, hothers, -⟩ := (buildUpdate_eq_ok_iff rfl).mp h
  have hread := buildUpdate_readBack hop h
  exact ⟨_, _, hread, hothers, hkeys, matchesKeys_iff hread hop hvalid⟩

/-- A field that is required before it is optional is a key, and so is a required one without a
name. -/
theorem buildStatement_matchesKeys_of_repeated_field :
    let p : Preset :=
      { table := "t", operation := .update, allowAdHocFields := true,
        schema := [{ name := "id", required := true }, { name := "SK" }, { name := "id" },
          { name := "", required := true }] }
    let item : Item := [("note", .null), ("id", .string "a"), ("", .bool true), ("SK", .null)]
    validateItem p item = .ok () ∧ p.template? = none ∧ (∀ name ∈ item.names, ¬ p.Shadows name) ∧
      ∃ built, buildStatement p item = .ok built ∧
        built.statement = "UPDATE \"t\" SET 'note'=? WHERE ''=? AND 'SK'=? AND 'id'=?" ∧
        ∃ assigned matched, ReadBack p item assigned matched built ∧ assigned ≠ [] ∧ matched ≠ [] ∧
          MatchesKeys p item assigned matched := by
  intro p item
  have hvalid : validateItem p item = .ok () := rfl
  have htemplate : p.template? = none := by decide
  have hnone : ∀ name ∈ item.names, ¬ p.Shadows name := by
    rintro name hname ⟨-, hsk, -, f, hfirst, hoptional⟩
    simp only [item, Entries.names, List.map_cons, List.map_nil, List.mem_cons, List.not_mem_nil,
      or_false] at hname
    rcases hname with rfl | rfl | rfl | rfl
    · cases hfirst
    · cases hfirst
      cases hoptional
    · cases hfirst
      cases hoptional
    · exact hsk rfl
  have hnames : sortedNames item = ["", "SK", "id", "note"] := by
    simp [sortedNames, item, List.mergeSort]
  have hbuilt : buildStatement p item =
      .ok (statementOf (updateText p.table ["note"] ["", "SK", "id"]) ["note", "", "SK", "id"] item) := by
    rw [buildStatement_of_update rfl htemplate, buildUpdate_eq_ok_iff hnames]
    exact ⟨by decide, by decide, rfl⟩
  obtain ⟨assigned, matched, hread, hassigned, hmatched, hiff⟩ :=
    buildStatement_matchesKeys rfl htemplate hvalid hbuilt
  exact ⟨hvalid, htemplate, hnone, _, hbuilt, by decide +kernel, assigned, matched, hread, hassigned,
    hmatched, hiff.mpr hnone⟩

/-- An optional field that stands before a required one of its name hides it: no item goes without
the field, and the update assigns it. -/
theorem buildStatement_assigns_shadowed_key :
    let p : Preset :=
      { table := "t", operation := .update,
        schema := [{ name := "PK" }, { name := "id" }, { name := "id", required := true },
          { name := "status" }] }
    let item : Item := [("PK", .string "p"), ("id", .string "a"), ("status", .string "s")]
    p.template? = none ∧ validateItem p item = .ok () ∧
      validateItem p [("PK", .string "p"), ("status", .string "s")] = .error (missingField "id") ∧
      ∃ built, buildStatement p item = .ok built ∧
        built.statement = "UPDATE \"t\" SET 'id'=?, 'status'=? WHERE 'PK'=?" ∧
        ∀ assigned matched, ReadBack p item assigned matched built →
          ¬ MatchesKeys p item assigned matched := by
  intro p item
  have hvalid : validateItem p item = .ok () := rfl
  have htemplate : p.template? = none := by decide
  have hnames : sortedNames item = ["PK", "id", "status"] := by
    simp [sortedNames, item, List.mergeSort]
  have hbuilt : buildStatement p item =
      .ok (statementOf (updateText p.table ["id", "status"] ["PK"]) ["id", "status", "PK"] item) := by
    rw [buildStatement_of_update rfl htemplate, buildUpdate_eq_ok_iff hnames]
    exact ⟨by decide, by decide, rfl⟩
  refine ⟨htemplate, hvalid, rfl, _, hbuilt, by decide +kernel, ?_⟩
  intro assigned matched hread hmatches
  have hshadows : p.Shadows "id" := by
    have hrequired : { name := "id", required := true } ∈ p.schema := by simp [p]
    exact ⟨by decide, by decide, ⟨_, hrequired, rfl, rfl⟩, _, rfl, rfl⟩
  exact (matchesKeys_iff hread rfl hvalid).mp hmatches "id" (by simp [item]) hshadows

end ItemStore.Upload
