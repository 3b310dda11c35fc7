import ItemStore.Proofs.Json.WrittenRecord
import ItemStore.Upload.Preset

/-! # Presets written and read

A field that holds its default is left out, and a word is read as the operation that it names, so a
preset that was read once is read again from what is written for it. The view that the host is given
has the same fields in another order, so nothing of the preset is lost in it.
-/
namespace ItemStore.Upload
open Json (Decoder Record)
open Json.Decoder

/-! ### Operations -/

theorem Operation.ofWord_word_of_supported :
    ∀ operation ∈ [insert, update, delete, select], ofWord operation.word = operation := by
  decide +kernel

theorem Operation.eq_of_ofWord_eq_unsupported {w v : String} (h : ofWord w = .unsupported v) :
    v = w := by
  unfold ofWord at h
  split at h
  iterate 4 cases h
  cases h
  rfl

theorem Operation.ofWord_word_ofWord (w : String) : ofWord (ofWord w).word = ofWord w := by
  cases hoperation : ofWord w with
  | unsupported v =>
    obtain rfl := eq_of_ofWord_eq_unsupported hoperation
    exact hoperation
  | insert | update | delete | select => exact ofWord_word_of_supported _ (by simp)

/-! ### Presets -/

namespace Field
variable (f : Field)

def members : List (Bool × String × Json) := [
  (true, "name", .string f.name),
  (true, "type", .string f.type),
  (f.required, "required", .bool f.required),
  (f.description ≠ "", "description", .string f.description),
  (f.defaultValue ≠ "", "defaultValue", .string f.defaultValue),
  (f.storeType ≠ "", "dynamoType", .string f.storeType)]

theorem restores (levels : Nat) : read.Restores (levels + 1) f.toJson f := by
  have hnames : (f.members.map fun member => member.2.1).Nodup := by simp [members]
  have hname := Record.required_written hnames "name" (by simp [members]) (restores_text f.name levels)
  have htext (name s : String) (hmem : (true, name, .string s) ∈ f.members ∨
      (decide (s ≠ ""), name, .string s) ∈ f.members) :
      (Record.ofFields (Record.written f.members) levels).withDefault name "" .text = some s :=
    Record.text_written hnames name s hmem
  have htype := htext "type" f.type (.inl (by simp [members]))
  have hrequired : (Record.ofFields (Record.written f.members) levels).withDefault "required" false
      .flag = some f.required :=
    Record.flag_written hnames "required" f.required (by simp [members])
  have hdescription := htext "description" f.description (.inr (by simp [members]))
  have hvalue := htext "defaultValue" f.defaultValue (.inr (by simp [members]))
  have hstore := htext "dynamoType" f.storeType (.inr (by simp [members]))
  have hrange : ∀ member ∈ f.members, member.2.2.InRange := by
    simp only [members, List.forall_mem_cons, List.not_mem_nil, false_implies, implies_true, and_true]
    exact ⟨.string _, .string _, .bool _, .string _, .string _, .string _⟩
  refine Record.restores_written f.members hnames (by simp [members])
    (fun member hmem _ => hrange member hmem) ?_
  simp only [Option.bind_eq_bind, Option.bind_some, hname, htype, hrequired, hdescription, hvalue,
    hstore]

end Field

namespace Preset
variable (p : Preset)

def members : List (Bool × String × Json) := [
  (true, "id", .string p.id),
  (true, "name", .string p.name),
  (p.description ≠ "", "description", .string p.description),
  (true, "table", .string p.table),
  (p.index ≠ "", "index", .string p.index),
  (true, "operation", .string p.operation.word),
  (!p.schema.isEmpty, "schema", .array (p.schema.map Field.toJson)),
  (p.template ≠ "", "partiqlTemplate", .string p.template),
  (p.allowAdHocFields, "allowAdHocFields", .bool p.allowAdHocFields),
  (p.allowDryRun, "allowDryRun", .bool p.allowDryRun),
  (p.maxPayloadKB ≠ 0, "maxPayloadKB", .ofInt p.maxPayloadKB),
  (p.responsePreview, "responsePreview", .bool p.responsePreview),
  (p.helpText ≠ "", "helpText", .string p.helpText),
  (p.category ≠ "", "category", .string p.category)]

/-- The operation is one that a word is read as, and the cap fits into a signed word. -/
structure Settled : Prop where
  operation : Operation.ofWord p.operation.word = p.operation
  maxPayloadKB : Number.fitsInt64 p.maxPayloadKB = true

variable {p}

theorem operation_settled {record : Record} {operation : Operation}
    (h : record.withDefault "operation" (.unsupported "") (.map Operation.ofWord .text) =
      some operation) : Operation.ofWord operation.word = operation := by
  rcases Record.exists_of_withDefault h with ⟨w, -, hread⟩ | rfl
  · obtain ⟨word, -, rfl⟩ := Option.map_eq_some_iff.mp hread
    exact Operation.ofWord_word_ofWord word
  · decide +kernel

theorem fitsInt64_of_withDefault {record : Record} {name : String} {i : Int}
    (h : record.withDefault name 0 .int64 = some i) : Number.fitsInt64 i = true := by
  rcases Record.exists_of_withDefault h with ⟨w, -, hread⟩ | rfl
  · exact fitsInt64_of_int64 hread
  · rfl

theorem settled_of_read {levels : Nat} {w : Json.Written} (h : read levels w = some p) : p.Settled := by
  -- Of the fields only the operation and the cap have anything to keep.
  unfold read at h
  iterate 6 obtain ⟨_, -, h⟩ := Option.bind_eq_some_iff.mp h
  obtain ⟨operation, hoperation, h⟩ := Option.bind_eq_some_iff.mp h
  iterate 4 obtain ⟨_, -, h⟩ := Option.bind_eq_some_iff.mp h
  obtain ⟨maxPayloadKB, hmax, h⟩ := Option.bind_eq_some_iff.mp h
  iterate 3 obtain ⟨_, -, h⟩ := Option.bind_eq_some_iff.mp h
  cases h
  exact ⟨operation_settled hoperation, fitsInt64_of_withDefault hmax⟩

theorem inRange_members (h : p.Settled) : ∀ member ∈ p.members, member.2.2.InRange := by
  have hschema : (Json.array (p.schema.map Field.toJson)).InRange :=
    (restores_list p.schema fun f _ => f.restores 0).inRange
  have hmax := (restores_int64 h.maxPayloadKB 0).inRange
  simp only [members, List.forall_mem_cons, List.not_mem_nil, false_implies, implies_true, and_true]
  exact ⟨.string _, .string _, .string _, .string _, .string _, .string _, hschema, .string _, .bool _,
    .bool _, hmax, .bool _, .string _, .string _⟩

theorem restores_present (h : p.Settled) {members : List (Bool × String × Json)}
    (hperm : members.Perm p.members) (levels : Nat) :
    read.Restores (levels + 3) (.object (Record.written members)) p := by
  have hnames : (members.map fun member => member.2.1).Nodup := by
    rw [(hperm.map fun member => member.2.1).nodup_iff]
    simp [Preset.members]
  have hdeclared : ∀ member ∈ members, member.2.1 ∈ ["id", "name", "description", "table", "index",
      "operation", "schema", "partiqlTemplate", "allowAdHocFields", "allowDryRun", "maxPayloadKB",
      "responsePreview", "helpText", "category"] := by
    intro member hmem
    rw [hperm.mem_iff] at hmem
    revert member
    simp [Preset.members]
  have hkept (name s : String) (hmem : (true, name, .string s) ∈ p.members) :
      (Record.ofFields (Record.written members) (levels + 2)).withDefault name "" .text = some s :=
    Record.text_written hnames name s (.inl (hperm.mem_iff.mpr hmem))
  have htext (name s : String) (hmem : (decide (s ≠ ""), name, .string s) ∈ p.members) :
      (Record.ofFields (Record.written members) (levels + 2)).withDefault name "" .text = some s :=
    Record.text_written hnames name s (.inr (hperm.mem_iff.mpr hmem))
  have hflag (name : String) (b : Bool) (hmem : (b, name, .bool b) ∈ p.members) :
      (Record.ofFields (Record.written members) (levels + 2)).withDefault name false .flag = some b :=
    Record.flag_written hnames name b (hperm.mem_iff.mpr hmem)
  have hid := hkept "id" p.id (by simp [Preset.members])
  have hname := hkept "name" p.name (by simp [Preset.members])
  have hdescription := htext "description" p.description (by simp [Preset.members])
  have htable := hkept "table" p.table (by simp [Preset.members])
  have hindex := htext "index" p.index (by simp [Preset.members])
  have hoperation := Record.withDefault_written hnames "operation" (.unsupported "") true
    (hperm.mem_iff.mpr (by simp [Preset.members]))
    (fun _ => (restores_text p.operation.word (levels + 2)).map Operation.ofWord) nofun
  have hfields := restores_list p.schema fun f _ => f.restores levels
  have hschema := Record.withDefault_written hnames "schema" [] (!p.schema.isEmpty)
    (hperm.mem_iff.mpr (by simp [Preset.members])) (fun _ => hfields)
    (by simp)
  have htemplate := htext "partiqlTemplate" p.template (by simp [Preset.members])
  have hadHoc := hflag "allowAdHocFields" p.allowAdHocFields (by simp [Preset.members])
  have hdryRun := hflag "allowDryRun" p.allowDryRun (by simp [Preset.members])
  have hmax := Record.withDefault_written hnames "maxPayloadKB" 0 (decide (p.maxPayloadKB ≠ 0))
    (hperm.mem_iff.mpr (by simp [Preset.members]))
    (fun _ => restores_int64 h.maxPayloadKB (levels + 2)) (by simp)
  have hpreview := hflag "responsePreview" p.responsePreview (by simp [Preset.members])
  have hhelp := htext "helpText" p.helpText (by simp [Preset.members])
  have hcategory := htext "category" p.category (by simp [Preset.members])
  rw [h.operation] at hoperation
  refine Record.restores_written members hnames hdeclared
    (fun member hmem _ => inRange_members h member (hperm.mem_iff.mp hmem)) ?_
  simp only [↓Option.bind_eq_bind, ↓Option.bind_some, hid, hname, hdescription, htable, hindex,
    hoperation, hschema, htemplate, hadHoc, hdryRun, hmax, hpreview, hhelp, hcategory]

theorem restores (h : p.Settled) (levels : Nat) : read.Restores (levels + 3) p.toJson p :=
  restores_present h (.refl _) levels

theorem restores_summary (h : p.Settled) (levels : Nat) :
    read.Restores (levels + 3) p.summary.toJson p := by
  -- The template stands behind the three fields that follow it in a preset.
  have hmoved : ((p.members.drop 8).take 3 ++ (p.members.drop 7).take 1).Perm
      ((p.members.drop 7).take 1 ++ (p.members.drop 8).take 3) := List.perm_append_comm
  exact restores_present h ((hmoved.append_right (p.members.drop 11)).append_left (p.members.take 7))
    levels

end Preset

namespace PresetSummary

def preset (s : PresetSummary) : Preset :=
  { id := s.id, name := s.name, description := s.description, table := s.table, index := s.index,
    operation := s.operation, schema := s.schema, template := s.template,
    allowAdHocFields := s.allowAdHocFields, allowDryRun := s.allowDryRun,
    maxPayloadKB := s.maxPayloadKB, responsePreview := s.responsePreview, helpText := s.helpText,
    category := s.category }

/-- Two readings that begin with one field agree if the rest of them does. -/
theorem bind_eq_map_bind {α β γ : Type} {a : Option α} {f : α → Option γ} {g : α → Option β}
    {k : β → γ} (h : ∀ x, f x = (g x).map k) : a >>= f = (a >>= g).map k := by
  cases a with
  | none => rfl
  | some x => exact h x

/-- A view is read like a preset: the same names are declared, in whatever order. -/
theorem read_object (levels : Nat) (fields : List (Option String × Json.Written)) :
    read levels (.object fields) = (Preset.read levels (.object fields)).map Preset.summary := by
  have hnames : Record.ofWritten? ["id", "name", "description", "table", "index", "operation",
        "schema", "allowAdHocFields", "allowDryRun", "maxPayloadKB", "partiqlTemplate",
        "responsePreview", "helpText", "category"] levels (.object fields) =
      Record.ofWritten? ["id", "name", "description", "table", "index", "operation", "schema",
        "partiqlTemplate", "allowAdHocFields", "allowDryRun", "maxPayloadKB", "responsePreview",
        "helpText", "category"] levels (.object fields) :=
    Record.ofWritten?_object_congr (fun name => by
      simp only [List.mem_cons, List.not_mem_nil, or_false]
      tauto) fields
  rw [read, Preset.read, hnames]
  refine bind_eq_map_bind fun record => ?_
  iterate 7 refine bind_eq_map_bind fun _ => ?_
  -- What is left reads the template behind three fields in the one and before them in the other.
  cases record.withDefault "partiqlTemplate" "" .text with
  | none => simp
  | some template =>
    iterate 3 refine bind_eq_map_bind fun _ => ?_
    rw [Option.bind_eq_bind, Option.bind_some]
    iterate 3 refine bind_eq_map_bind fun _ => ?_
    rfl

theorem restores {s : PresetSummary} (h : s.preset.Settled) (levels : Nat) :
    read.Restores (levels + 3) s.toJson s := by
  have hpreset := Preset.restores_summary h levels
  refine ⟨hpreset.inRange, ?_⟩
  change read (levels + 3) (.object (Json.toWrittenMembers _)) = some s
  rw [read_object]
  exact congrArg (Option.map Preset.summary) hpreset.reads

theorem settled_of_read {levels : Nat} {w : Json.Written} {s : PresetSummary}
    (h : read levels w = some s) : s.preset.Settled := by
  unfold read at h
  iterate 6 obtain ⟨_, -, h⟩ := Option.bind_eq_some_iff.mp h
  obtain ⟨operation, hoperation, h⟩ := Option.bind_eq_some_iff.mp h
  iterate 3 obtain ⟨_, -, h⟩ := Option.bind_eq_some_iff.mp h
  obtain ⟨maxPayloadKB, hmax, h⟩ := Option.bind_eq_some_iff.mp h
  iterate 4 obtain ⟨_, -, h⟩ := Option.bind_eq_some_iff.mp h
  cases h
  exact ⟨Preset.operation_settled hoperation, Preset.fitsInt64_of_withDefault hmax⟩

end PresetSummary

end ItemStore.Upload
