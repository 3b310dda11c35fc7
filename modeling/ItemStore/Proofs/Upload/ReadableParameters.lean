import ItemStore.Proofs.Json.TakenValue
import ItemStore.Proofs.Json.TextStart
import ItemStore.Proofs.Value.Readable
import ItemStore.Upload.Statement

/-! # Readable parameters

Whatever a caller's value is coerced to is readable: its numbers are written in texts that are read
as finite numbers again, and a number text that the caller gave was read before it was kept. So a
literal of a preview is never the tag of a kind, which stands for a value that cannot be shown.
-/
namespace ItemStore.Upload

section Coercion
variable {f : Field} {json : Json} {v : Value}

theorem accepted_coerceNumber {text : String} (hrange : json.InRange)
    (h : coerceNumber json = .ok text) : JsonNumber.Accepted text := by
  unfold coerceNumber at h
  split at h
  · cases h
    cases hrange with
    | number hrange => exact JsonNumber.accepted_trimmedText hrange
  · split at h
    · cases h
    · split at h
      · next x hread =>
        split at h
        · next hfinite =>
          cases h
          exact JsonNumber.accepted_of_readFloat? hread hfinite
        · cases h
      · cases h
  · cases h

theorem hasPlainJson_coerceJson (hrange : json.InRange) (h : coerceJson json = .ok v) :
    v.HasPlainJson := by
  unfold coerceJson at h
  split at h
  · split at h
    · cases h
      exact ⟨_, rfl, .null⟩
    · split at h
      · next read hread =>
        cases h
        exact Value.hasPlainJson_marshal (Json.taken_of_parse? hread).inRange
      · cases h
  · cases h
    exact Value.hasPlainJson_marshal hrange

theorem hasPlainJson_of_map {α : Type} {step : Except CoercionError α} {make : α → Value}
    (h : step.map make = .ok v) (hmake : ∀ a, step = .ok a → (make a).HasPlainJson) :
    v.HasPlainJson := by
  cases step with
  | error e => cases h
  | ok a =>
    cases h
    exact hmake a rfl

/-- Numbers are written anew or have been read, and JSON in a string has been parsed. -/
theorem hasPlainJson_coerce (hrange : json.InRange) (h : coerce f json = .ok v) : v.HasPlainJson := by
  unfold coerce at h
  split at h
  · cases h
    exact ⟨_, rfl, .null⟩
  cases hkind : FieldKind.resolve f with
  | error e =>
    rw [hkind] at h
    cases h
  | ok kind =>
    rw [hkind] at h
    cases kind with
    | string =>
      cases h
      exact ⟨_, rfl, .string _⟩
    | number =>
      refine hasPlainJson_of_map h fun text htext => ?_
      exact Value.hasPlainJson_number_iff.mpr (accepted_coerceNumber hrange htext)
    | boolean => exact hasPlainJson_of_map h fun b _ => ⟨_, rfl, .bool b⟩
    | json => exact hasPlainJson_coerceJson hrange h
    | auto =>
      cases h
      exact Value.hasPlainJson_marshal hrange

end Coercion

/-! ### Literals -/

def ShowsNoTag (text : List Char) : Prop := ∀ kind : ValueKind, text ≠ kind.placeholder.toList

namespace ShowsNoTag
variable {text : List Char} {json : Json} {v : Value}

/-- A tag is a bracket and then a capital letter, and it is short. -/
theorem exists_placeholder_eq_cons (kind : ValueKind) :
    ∃ c rest, kind.placeholder.toList = '[' :: c :: rest ∧ c.isUpper = true ∧ rest.length ≤ 4 := by
  cases kind <;> exact ⟨_, _, rfl, rfl, by decide⟩

theorem of_first {c : Char} (h : c ≠ '[') (rest : List Char) : ShowsNoTag (c :: rest) := by
  intro kind heq
  obtain ⟨d, tail, htag, -⟩ := exists_placeholder_eq_cons kind
  rw [htag] at heq
  exact h (List.cons.inj heq).1

theorem of_second {b c : Char} (h : c.isUpper = false) (rest : List Char) :
    ShowsNoTag (b :: c :: rest) := by
  intro kind heq
  obtain ⟨d, tail, htag, hupper, -⟩ := exists_placeholder_eq_cons kind
  rw [htag] at heq
  obtain ⟨-, htail⟩ := List.cons.inj heq
  obtain ⟨rfl, -⟩ := List.cons.inj htail
  rw [h] at hupper
  cases hupper

/-- What is cut is longer than a tag. -/
theorem cut (h : ShowsNoTag text) : ShowsNoTag (cut text) := by
  unfold Upload.cut
  split
  · exact h
  · next hlong =>
    intro kind heq
    obtain ⟨c, rest, htag, -, hlength⟩ := exists_placeholder_eq_cons kind
    have hlengths := congrArg List.length heq
    rw [htag, List.length_append, List.length_take] at hlengths
    simp only [previewLimit, List.length_cons, List.length_nil] at *
    omega

theorem of_accepted {text : String} (h : JsonNumber.Accepted text) : ShowsNoTag text.toList := by
  rintro kind heq
  obtain ⟨n, hn, -⟩ := h
  rw [String.toList_inj.mp heq] at hn
  cases kind <;> cases hn

/-- A tag begins with a bracket as an array does, but no item begins with a capital letter. -/
theorem of_json (h : json.InRange) : ShowsNoTag json.text := by
  cases h with
  | null => exact of_first (by decide) _
  | bool b => cases b <;> exact of_first (by decide) _
  | number h =>
    obtain ⟨c, rest, htext, hc⟩ := JsonNumber.beginsNumeral_text h
    rw [Json.text, htext]
    apply of_first
    rintro rfl
    cases hc with
    | inl h => cases h
    | inr h => cases h
  | string s => exact of_first (by decide) _
  | @array items h =>
    cases items with
    | nil => exact of_second rfl _
    | cons item rest =>
      obtain ⟨c, tail, htext, hc⟩ := Json.exists_text_eq_cons (h item List.mem_cons_self)
      rw [Json.text, htext]
      exact of_second hc.isUpper _
  | @object fields => rcases fields with _ | ⟨⟨name, value⟩, rest⟩ <;> exact of_first (by decide) _

theorem literal (h : json.InRange) : ShowsNoTag (literal json) := by
  cases h with
  | null => exact of_first (by decide) _
  | bool b => cases b <;> exact of_first (by decide) _
  | number h =>
    have haccepted := of_accepted (JsonNumber.accepted_trimmedText h)
    rwa [String.toList_ofList] at haccepted
  | string s => exact of_first (by decide) _
  | array h => exact (of_json (.array h)).cut
  | object h => exact (of_json (.object h)).cut

theorem parameterLiteral (h : v.HasPlainJson) : ShowsNoTag (parameterLiteral v) := by
  cases v with
  | string s => exact of_first (by decide) _
  | number n => exact of_accepted (Value.hasPlainJson_number_iff.mp h)
  | bool b => cases b <;> exact of_first (by decide) _
  | null => exact of_first (by decide) _
  | _ =>
    obtain ⟨json, hjson, hrange⟩ := h
    simpa only [Upload.parameterLiteral, hjson] using (of_json hrange).cut

end ShowsNoTag

/-! ### Built statements -/

inductive GeneratedText (p : Preset) : List String → ((String → List Char) → List Char) → Prop
  | insert (names : List String) : GeneratedText p names (insertText p.table names)
  | update (assigned keys : List String) :
      GeneratedText p (assigned ++ keys) (updateText p.table assigned keys)
  | delete (names : List String) : GeneratedText p names (deleteText p.table names)
  | select (names : List String) : GeneratedText p names (selectText p.table names)

/-- What the preview of a statement has in place of its parameters, in their order. -/
inductive BuiltStatement.Shows (p : Preset) (item : Item) : BuiltStatement → List (List Char) → Prop
  | generated {names : List String} {text : (String → List Char) → List Char}
      (htext : GeneratedText p names text) :
      Shows p item (statementOf text names item) (names.map (shownValue item))
  | templated (template : String) {parameters : List Value}
      (hparameters : templateParameters item p.schema = .ok parameters) :
      Shows p item ⟨template, parameters, renderTemplate template parameters⟩
        (parameters.map parameterLiteral)

section Statements
variable {p : Preset} {item : Item} {built : BuiltStatement} {shown : List (List Char)}

theorem inRange_fieldValue (hitem : ∀ field ∈ item, field.2.InRange) (name : String) :
    (fieldValue item name).InRange := by
  unfold fieldValue
  cases hfind : item.find? name with
  | none => exact .null
  | some json => exact hitem (name, json) (Entries.mem_of_find? hfind)

theorem hasPlainJson_templateParameter {f : Field} {v : Value}
    (hitem : ∀ field ∈ item, field.2.InRange) (h : templateParameter item f = .ok v) :
    v.HasPlainJson := by
  unfold templateParameter at h
  split at h
  · split at h
    · cases h
    · cases h
      exact ⟨_, rfl, .null⟩
  · next json hfind =>
    split at h
    · next value hvalue =>
      cases h
      exact hasPlainJson_coerce (hitem (f.name, json) (Entries.mem_of_find? hfind)) hvalue
    · cases h

theorem hasPlainJson_templateParameters {fields : List Field} {parameters : List Value}
    (hitem : ∀ field ∈ item, field.2.InRange) (h : templateParameters item fields = .ok parameters) :
    ∀ v ∈ parameters, v.HasPlainJson := by
  induction fields generalizing parameters with
  | nil =>
    cases h
    simp
  | cons f rest ih =>
    obtain ⟨value, hvalue, h⟩ := Failure.bind_eq_ok_iff.mp h
    obtain ⟨values, hvalues, h⟩ := Failure.bind_eq_ok_iff.mp h
    cases h
    exact List.forall_mem_cons.mpr ⟨hasPlainJson_templateParameter hitem hvalue, ih hvalues⟩

theorem shows_buildUpdate (h : buildUpdate p item = .ok built) : ∃ shown, built.Shows p item shown := by
  unfold buildUpdate at h
  split at h
  · cases h
  · dsimp only at h
    split at h
    · cases h
    · split at h
      · cases h
      · cases h
        exact ⟨_, .generated (.update _ _)⟩

theorem shows_buildTemplated {template : String} (h : buildTemplated p template item = .ok built) :
    ∃ shown, built.Shows p item shown := by
  unfold buildTemplated at h
  split at h
  · cases h
  · obtain ⟨parameters, hparameters, h⟩ := Failure.bind_eq_ok_iff.mp h
    dsimp only at h
    split at h
    · cases h
    · cases h
      exact ⟨_, .templated template hparameters⟩

theorem shows_buildStatement (h : buildStatement p item = .ok built) :
    ∃ shown, built.Shows p item shown := by
  have hnonempty {statement : BuiltStatement} (h : (if item.isEmpty then .error emptyPayload
      else .ok statement : Except Failure BuiltStatement) = .ok built) : statement = built := by
    split at h
    · cases h
    · exact Except.ok.inj h
  unfold buildStatement at h
  split at h
  · obtain rfl := hnonempty h
    exact ⟨_, .generated (.insert _)⟩
  · exact shows_buildUpdate h
  · obtain rfl := hnonempty h
    exact ⟨_, .generated (.delete _)⟩
  · cases h
    exact ⟨_, .generated (.select _)⟩
  · cases h
  · exact shows_buildTemplated h

namespace BuiltStatement.Shows

theorem hasPlainJson (h : built.Shows p item shown) (hitem : ∀ field ∈ item, field.2.InRange) :
    ∀ v ∈ built.parameters, v.HasPlainJson := by
  cases h with
  | generated _ =>
    rw [statementOf, fieldParameters, List.forall_mem_map]
    exact fun name _ => Value.hasPlainJson_marshal (inRange_fieldValue hitem name)
  | templated _ hparameters => exact hasPlainJson_templateParameters hitem hparameters

theorem length_shown (h : built.Shows p item shown) : shown.length = built.parameters.length := by
  cases h with
  | generated _ => simp [statementOf, fieldParameters]
  | templated _ _ => exact List.length_map ..

theorem showsNoTag (h : built.Shows p item shown) (hitem : ∀ field ∈ item, field.2.InRange) :
    ∀ text ∈ shown, ShowsNoTag text := by
  cases h with
  | generated _ =>
    rw [List.forall_mem_map]
    exact fun name _ => .literal (inRange_fieldValue hitem name)
  | templated _ hparameters =>
    rw [List.forall_mem_map]
    exact fun v hv => .parameterLiteral (hasPlainJson_templateParameters hitem hparameters v hv)

end BuiltStatement.Shows

end Statements

/-- Whatever an upload writes can be read: what a field's value is coerced to, the natural value of a
JSON value, and the parameters of a statement. So no parameter is previewed as the tag of a kind. -/
theorem parameters_readable :
    (∀ (f : Field) (json : Json) (v : Value), json.InRange → coerce f json = .ok v → v.Readable) ∧
    (∀ json : Json, json.InRange → (Value.marshal json).Readable) ∧
    ∀ (p : Preset) (item : Item) (built : BuiltStatement), (∀ field ∈ item, field.2.InRange) →
      buildStatement p item = .ok built →
        (∀ v ∈ built.parameters, v.Readable ∧ ShowsNoTag (parameterLiteral v)) ∧
        ∃ shown, built.Shows p item shown ∧ shown.length = built.parameters.length ∧
          ∀ text ∈ shown, ShowsNoTag text := by
  refine ⟨?_, ?_, ?_⟩
  · intro f json v hrange h
    exact (hasPlainJson_coerce hrange h).readable
  · intro json hrange
    exact (Value.hasPlainJson_marshal hrange).readable
  · intro p item built hitem h
    obtain ⟨shown, hshows⟩ := shows_buildStatement h
    refine ⟨?_, shown, hshows, hshows.length_shown, hshows.showsNoTag hitem⟩
    intro v hv
    have hplain := hshows.hasPlainJson hitem v hv
    exact ⟨hplain.readable, .parameterLiteral hplain⟩

/-- A number text with a point but no digit behind it is kept as the caller wrote it. -/
theorem parameters_readable_of_number_text :
    let f : Field := { name := "n", type := "number" }
    let p : Preset :=
      { table := "t", operation := .update, schema := [f], template := "UPDATE t SET n=?" }
    let item : Item := [("n", .string "+1.e2")]
    coerce f (.string "+1.e2") = .ok (.number "+1.e2") ∧ (Value.number "+1.e2").Readable ∧
    (Value.marshal (.array [.ofInt 1])).Readable ∧
    ∃ built, buildStatement p item = .ok built ∧ built.parameters = [.number "+1.e2"] ∧
      (∀ v ∈ built.parameters, v.Readable ∧ ShowsNoTag (parameterLiteral v)) ∧
      ∃ shown, built.Shows p item shown ∧ shown.length = built.parameters.length ∧
        ∀ text ∈ shown, ShowsNoTag text := by
  intro f p item
  have hjson : (Json.array [.ofInt 1]).InRange := by
    refine .array fun item hmem => ?_
    rw [List.mem_singleton.mp hmem]
    exact .number ⟨by decide, by decide⟩
  have hitem : ∀ field ∈ item, field.2.InRange := by
    simp [item, Json.InRange.string]
  have hkind : FieldKind.resolve f = .ok .number := by decide +kernel
  have htext : coerceNumber (.string "+1.e2") = .ok "+1.e2" := by decide +kernel
  have hcoerce : coerce f (.string "+1.e2") = .ok (.number "+1.e2") := by
    simp [coerce, Json.isNull, hkind, htext, Except.map, bind, Except.bind]
  have hparameters : templateParameters item p.schema = .ok [.number "+1.e2"] := by
    simp [p, item, f, templateParameters, templateParameter, Entries.find?, hcoerce, bind, Except.bind]
  have htemplate : p.template? = some p.template := by decide +kernel
  have hplaceholders : (placeholders p.template).length = 1 := by decide +kernel
  have hbuilt : buildStatement p item = .ok ⟨p.template, [.number "+1.e2"],
      renderTemplate p.template [.number "+1.e2"]⟩ := by
    have hschema : p.schema.isEmpty = false := rfl
    rw [buildStatement, htemplate]
    change buildTemplated p p.template item = _
    simp [buildTemplated, hschema, hparameters, hplaceholders, bind, Except.bind]
  obtain ⟨hcoerced, hmarshal, hbuildable⟩ := parameters_readable
  exact ⟨hcoerce, hcoerced _ _ _ (.string _) hcoerce, hmarshal _ hjson, _, hbuilt, rfl,
    hbuildable p item _ hitem hbuilt⟩

end ItemStore.Upload
