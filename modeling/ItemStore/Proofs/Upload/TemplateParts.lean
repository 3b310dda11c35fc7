import ItemStore.Proofs.Text.Pieces
import ItemStore.Proofs.Upload.PlaceholderCuts
import ItemStore.Upload.Statement
import Mathlib.Algebra.Ring.Nat
import Mathlib.Data.List.Forall2
import Mathlib.Data.List.Induction

/-! # Statements from a template

The placeholders of a template are the question marks that stand outside its literals, be the last
literal closed or not. They cut the template into parts, and the preview of a statement has the
literals of its parameters between these parts. An item gives a statement if each field of the schema
gives a parameter and the placeholders, if there are any, are as many as the fields.
-/
namespace ItemStore.Upload
open Text (isMark)

/-! ### Closed literals -/

/-- A text of which each literal is closed by the quote that opened it. -/
inductive Closed : List Char → Prop
  | nil : Closed []
  | plain {text : List Char} {c : Char} (h : Closed text) (hc : isMark c = false) : Closed (text ++ [c])
  | literal {text inner : List Char} {mark : Char} (h : Closed text) (hmark : isMark mark = true)
      (hinner : mark ∉ inner) : Closed (text ++ mark :: (inner ++ [mark]))

def openQuote (quote : Option Char) (text : List Char) : Option Char := text.foldl nextQuote quote

section Quotes
variable {text inner : List Char} {c mark : Char}

@[simp] theorem openQuote_nil (quote : Option Char) : openQuote quote [] = quote := rfl

@[simp] theorem openQuote_cons (quote : Option Char) (c : Char) (text : List Char) :
    openQuote quote (c :: text) = openQuote (nextQuote quote c) text := rfl

theorem openQuote_append (quote : Option Char) (text rest : List Char) :
    openQuote quote (text ++ rest) = openQuote (openQuote quote text) rest := List.foldl_append

theorem nextQuote_none (c : Char) : nextQuote none c = if isMark c = true then some c else none := by
  simp [nextQuote, isMark]

theorem nextQuote_placeholder : nextQuote none '?' = none := rfl

/-- A literal stays open up to the next quote of its kind. -/
theorem openQuote_inner (h : mark ∉ inner) : openQuote (some mark) inner = some mark := by
  induction inner with
  | nil => rfl
  | cons c inner ih =>
    rw [List.mem_cons, not_or] at h
    rw [openQuote_cons, nextQuote, if_neg (Ne.symm h.1), ih h.2]

/-- What stands for the quote that is open after a text: the literal that it opened. -/
def OpenedBy (text : List Char) : Option Char → Prop
  | none => Closed text
  | some mark => ∃ before inner, text = before ++ mark :: inner ∧ Closed before ∧
      isMark mark = true ∧ mark ∉ inner

theorem openedBy_openQuote (text : List Char) : OpenedBy text (openQuote none text) := by
  induction text using List.reverseRecOn with
  | nil => exact .nil
  | append_singleton text c ih =>
    rw [openQuote_append, openQuote_cons, openQuote_nil]
    cases hquote : openQuote none text with
    | none =>
      rw [hquote] at ih
      rw [nextQuote_none]
      split
      · next hmark => exact ⟨text, [], rfl, ih, hmark, List.not_mem_nil⟩
      · next hplain => exact .plain ih (Bool.eq_false_iff.mpr hplain)
    | some mark =>
      rw [hquote] at ih
      obtain ⟨before, inner, rfl, hbefore, hmark, hinner⟩ := ih
      rw [nextQuote]
      split
      · next hc =>
        subst hc
        have hclosed := Closed.literal hbefore hmark hinner
        simpa [OpenedBy] using hclosed
      · next hc =>
        refine ⟨before, inner ++ [c], by simp, hbefore, hmark, ?_⟩
        simpa [hinner] using Ne.symm hc

theorem closed_iff : Closed text ↔ openQuote none text = none := by
  constructor
  · intro h
    induction h with
    | nil => rfl
    | plain h hc ih => simp [openQuote_append, ih, nextQuote_none, hc]
    | literal h hmark hinner ih =>
      rw [openQuote_append, ih, openQuote_cons, nextQuote_none, if_pos hmark, openQuote_append,
        openQuote_inner hinner]
      simp [nextQuote]
  · intro h
    have hopened := openedBy_openQuote text
    rwa [h] at hopened

end Quotes

/-! ### The parts of a template -/

/-- The parts into which its placeholders cut a text that follows a quote. -/
def partsFrom (quote : Option Char) : List Char → List (List Char)
  | [] => [[]]
  | c :: text =>
    let parts := partsFrom (nextQuote quote c) text
    if quote = none ∧ c = '?' then [] :: parts else parts.modifyHead (c :: ·)

/-- The question marks by which the parts are joined are those outside the literals. -/
structure Parted (template : List Char) (parts : List (List Char)) : Prop where
  joined : ['?'].intercalate parts = template
  outside : ∀ before after, template = before ++ '?' :: after →
    (Closed before ↔ ∃ k, k + 1 < parts.length ∧ before = ['?'].intercalate (parts.take (k + 1)))

section Parts
variable {quote : Option Char} {c : Char} {text : List Char}

theorem partsFrom_placeholder (hquote : quote = none) (hc : c = '?') :
    partsFrom quote (c :: text) = [] :: partsFrom none text := by
  subst hquote hc
  simp only [partsFrom, nextQuote_placeholder, and_self, if_true]

theorem partsFrom_other (h : ¬ (quote = none ∧ c = '?')) :
    partsFrom quote (c :: text) = (partsFrom (nextQuote quote c) text).modifyHead (c :: ·) := by
  simp only [partsFrom, if_neg h]

theorem exists_partsFrom (quote : Option Char) (text : List Char) :
    ∃ first rest, partsFrom quote text = first :: rest := by
  induction text generalizing quote with
  | nil => exact ⟨[], [], rfl⟩
  | cons c text ih =>
    by_cases h : quote = none ∧ c = '?'
    · exact ⟨[], _, partsFrom_placeholder h.1 h.2⟩
    · obtain ⟨first, rest, hparts⟩ := ih (nextQuote quote c)
      exact ⟨c :: first, rest, by rw [partsFrom_other h, hparts]; rfl⟩

/-- A further part stands before its separator. -/
theorem intercalate_nil_cons {parts : List (List Char)} (h : parts ≠ []) :
    ['?'].intercalate ([] :: parts) = '?' :: ['?'].intercalate parts := by
  obtain ⟨first, rest, rfl⟩ := List.exists_cons_of_ne_nil h
  simp [List.intercalate]

theorem intercalate_cons_head (c : Char) (first : List Char) (rest : List (List Char)) :
    ['?'].intercalate ((c :: first) :: rest) = c :: ['?'].intercalate (first :: rest) := by
  cases rest <;> simp [List.intercalate]

theorem intercalate_partsFrom (quote : Option Char) (text : List Char) :
    ['?'].intercalate (partsFrom quote text) = text := by
  induction text generalizing quote with
  | nil => simp [partsFrom, List.intercalate]
  | cons c text ih =>
    obtain ⟨first, rest, hparts⟩ := exists_partsFrom (nextQuote quote c) text
    have hlater := ih (nextQuote quote c)
    by_cases h : quote = none ∧ c = '?'
    · obtain ⟨rfl, rfl⟩ := h
      rw [nextQuote_placeholder] at hparts hlater
      rw [partsFrom_placeholder rfl rfl, intercalate_nil_cons (by simp [hparts]), hlater]
    · rw [hparts] at hlater
      rw [partsFrom_other h, hparts, List.modifyHead_cons, intercalate_cons_head, hlater]

/-- Before a question mark no quote is open exactly if the text up to it is joined from the first
parts. -/
theorem openQuote_eq_none_iff {before after : List Char} (hsplit : text = before ++ '?' :: after) :
    openQuote quote before = none ↔ ∃ k, k + 1 < (partsFrom quote text).length ∧
      before = ['?'].intercalate ((partsFrom quote text).take (k + 1)) := by
  induction before generalizing quote text with
  | nil =>
    rw [List.nil_append] at hsplit
    subst hsplit
    by_cases h : quote = none
    · obtain ⟨first, rest, hparts⟩ := exists_partsFrom none after
      rw [partsFrom_placeholder h rfl, hparts]
      exact iff_of_true h ⟨0, by simp, by simp [List.intercalate]⟩
    · obtain ⟨first, rest, hparts⟩ := exists_partsFrom (nextQuote quote '?') after
      rw [partsFrom_other fun hcut => h hcut.1, hparts]
      refine iff_of_false h ?_
      rintro ⟨k, -, hjoined⟩
      rw [List.modifyHead_cons, List.take_succ_cons, intercalate_cons_head] at hjoined
      cases hjoined
  | cons c before ih =>
    rw [List.cons_append] at hsplit
    subst hsplit
    rw [openQuote_cons, ih rfl]
    obtain ⟨first, rest, hparts⟩ := exists_partsFrom (nextQuote quote c) (before ++ '?' :: after)
    by_cases h : quote = none ∧ c = '?'
    · obtain ⟨rfl, rfl⟩ := h
      rw [nextQuote_placeholder] at hparts ⊢
      rw [partsFrom_placeholder rfl rfl, hparts]
      -- the first part is empty, so each of the others moves on by one
      constructor
      · rintro ⟨k, hk, hjoined⟩
        refine ⟨k + 1, by simpa using hk, ?_⟩
        rw [List.take_succ_cons, intercalate_nil_cons (by simp), ← hjoined]
      · rintro ⟨k, hk, hjoined⟩
        cases k with
        | zero => simp [List.intercalate] at hjoined
        | succ k =>
          rw [List.take_succ_cons, intercalate_nil_cons (by simp)] at hjoined
          exact ⟨k, by simpa using hk, (List.cons.inj hjoined).2⟩
    · rw [partsFrom_other h, hparts]
      simp only [List.modifyHead_cons, List.take_succ_cons, intercalate_cons_head, List.length_cons,
        List.cons.injEq, true_and]

theorem parted_partsFrom (template : List Char) : Parted template (partsFrom none template) :=
  ⟨intercalate_partsFrom none template,
    fun _ _ hsplit => closed_iff.trans (openQuote_eq_none_iff hsplit)⟩

theorem length_placeholdersFrom (quote : Option Char) (offset : Nat) (text : List Char) :
    (placeholdersFrom quote offset text).length + 1 = (partsFrom quote text).length := by
  induction text generalizing quote offset with
  | nil => rfl
  | cons c text ih =>
    have hlater := ih (nextQuote quote c) (offset + c.utf8Size)
    by_cases h : quote = none ∧ c = '?'
    · simp only [placeholdersFrom, partsFrom, if_pos h, List.length_cons, hlater]
    · simp only [placeholdersFrom, partsFrom, if_neg h, List.length_modifyHead, hlater]

theorem renderFrom_eq {first : List Char} {rest : List (List Char)} {parameters : List Value}
    (hparts : partsFrom quote text = first :: rest) (hlength : rest.length ≤ parameters.length) :
    renderFrom quote parameters text =
      first ++ (List.zipWith (· ++ ·) (parameters.map parameterLiteral) rest).flatten := by
  induction text generalizing quote first rest parameters with
  | nil =>
    obtain ⟨rfl, rfl⟩ := List.cons.inj hparts
    simp [renderFrom]
  | cons c text ih =>
    obtain ⟨next, later, hlater⟩ := exists_partsFrom (nextQuote quote c) text
    by_cases h : quote = none ∧ c = '?'
    · obtain ⟨rfl, rfl⟩ := h
      rw [nextQuote_placeholder] at hlater
      rw [partsFrom_placeholder rfl rfl, hlater] at hparts
      obtain ⟨rfl, rfl⟩ := List.cons.inj hparts
      cases parameters with
      | nil => simp at hlength
      | cons p parameters =>
        rw [List.length_cons, List.length_cons, Nat.succ_le_succ_iff] at hlength
        simp [renderFrom, nextQuote_placeholder, ih hlater hlength]
    · rw [partsFrom_other h, hlater, List.modifyHead_cons] at hparts
      obtain ⟨rfl, rfl⟩ := List.cons.inj hparts
      simp only [renderFrom, if_neg h, ih hlater hlength, List.cons_append]

end Parts

/-! ### The parameters -/

/-- The parameter that a field of the schema gives: what its value in the item is coerced to, or null
for an optional field that the item does not have. -/
def Binds (item : Item) (f : Field) (value : Value) : Prop :=
  (∃ json, item.find? f.name = some json ∧ coerce f json = .ok value) ∨
    item.find? f.name = none ∧ f.required = false ∧ value = .null

def RefusesField (item : Item) (f : Field) (message : String) : Prop :=
  (item.find? f.name = none ∧ f.required = true ∧
      message = "required field " ++ Text.quoted f.name ++ " missing") ∨
    ∃ json e, item.find? f.name = some json ∧ coerce f json = .error e ∧
      message = "field " ++ Text.quoted f.name ++ ": " ++ e.text

section Parameters
variable {item : Item} {f : Field} {fields : List Field}

theorem templateParameter_eq_ok_iff {value : Value} :
    templateParameter item f = .ok value ↔ Binds item f value := by
  unfold templateParameter Binds
  cases hfind : item.find? f.name with
  | none => cases f.required <;> simp [eq_comm]
  | some json => cases hcoerce : coerce f json <;> simp [hcoerce]

theorem exists_refusesField (h : ∀ value, ¬ Binds item f value) :
    ∃ message, RefusesField item f message ∧
      templateParameter item f = .error (.validation message) := by
  unfold templateParameter
  cases hfind : item.find? f.name with
  | none =>
    cases hrequired : f.required with
    | false => exact absurd (.inr ⟨hfind, hrequired, rfl⟩) (h .null)
    | true => exact ⟨_, .inl ⟨hfind, hrequired, rfl⟩, rfl⟩
  | some json =>
    cases hcoerce : coerce f json with
    | ok value => exact absurd (.inl ⟨json, hfind, hcoerce⟩) (h value)
    | error e =>
      refine ⟨_, .inr ⟨json, e, hfind, hcoerce, rfl⟩, ?_⟩
      simp only [hcoerce]
      rfl

theorem templateParameters_eq_ok_iff {values : List Value} :
    templateParameters item fields = .ok values ↔ List.Forall₂ (Binds item) fields values := by
  induction fields generalizing values with
  | nil => simp [templateParameters, eq_comm]
  | cons f fields ih =>
    simp only [templateParameters, Failure.bind_eq_ok_iff, templateParameter_eq_ok_iff, ih]
    rw [List.forall₂_cons_left_iff]
    constructor
    · rintro ⟨value, hvalue, later, hlater, hvalues⟩
      exact ⟨value, later, hvalue, hlater, (Except.ok.inj hvalues).symm⟩
    · rintro ⟨value, later, hvalue, hlater, rfl⟩
      exact ⟨value, hvalue, later, hlater, rfl⟩

theorem templateParameters_eq_error {earlier later : List Field}
    (hearlier : ∀ g ∈ earlier, ∃ value, Binds item g value) {failure : Failure}
    (h : templateParameter item f = .error failure) :
    templateParameters item (earlier ++ f :: later) = .error failure := by
  induction earlier with
  | nil =>
    simp only [List.nil_append, templateParameters, h]
    rfl
  | cons g earlier ih =>
    obtain ⟨⟨value, hvalue⟩, hearlier⟩ := List.forall_mem_cons.mp hearlier
    simp only [List.cons_append, templateParameters, templateParameter_eq_ok_iff.mpr hvalue,
      ih hearlier]
    rfl

/-- A field gives a parameter if it is there or optional, and what is there is coerced. -/
theorem exists_binds_iff :
    (∃ value, Binds item f value) ↔ (f.required = true → ∃ json, item.find? f.name = some json) ∧
      ∀ json, item.find? f.name = some json → ∃ value, coerce f json = .ok value := by
  unfold Binds
  cases hfind : item.find? f.name with
  | none => cases f.required <;> simp
  | some json => simp

theorem exists_forall₂_binds_iff :
    (∃ values, List.Forall₂ (Binds item) fields values) ↔
      ∀ f ∈ fields, ∃ value, Binds item f value := by
  induction fields with
  | nil => simp
  | cons f fields ih =>
    simp only [List.forall_mem_cons, ← ih, List.forall₂_cons_left_iff]
    constructor
    · rintro ⟨_, value, values, hvalue, hvalues, rfl⟩
      exact ⟨⟨value, hvalue⟩, values, hvalues⟩
    · rintro ⟨⟨value, hvalue⟩, values, hvalues⟩
      exact ⟨_, value, values, hvalue, hvalues, rfl⟩

end Parameters

/-! ### The statement -/

section Statement
variable {p : Preset} {template : String} {item : Item} {built : BuiltStatement}

theorem buildStatement_of_template (hoperation : p.operation ∈ [.update, .delete, .select])
    (htemplate : p.template? = some template) :
    buildStatement p item = buildTemplated p template item := by
  simp only [List.mem_cons, List.not_mem_nil, or_false] at hoperation
  rcases hoperation with h | h | h <;> simp [buildStatement, h, htemplate]

theorem buildTemplated_eq_ok_iff :
    buildTemplated p template item = .ok built ↔ p.schema ≠ [] ∧ ∃ parameters,
      List.Forall₂ (Binds item) p.schema parameters ∧
      ((placeholders template).length = 0 ∨ (placeholders template).length = p.schema.length) ∧
      built = ⟨template, parameters, renderTemplate template parameters⟩ := by
  unfold buildTemplated
  by_cases hschema : p.schema = []
  · simp [hschema]
  · rw [if_neg (by simpa using hschema)]
    simp only [Failure.bind_eq_ok_iff, templateParameters_eq_ok_iff, ne_eq, hschema,
      not_false_eq_true, true_and]
    refine exists_congr fun parameters => and_congr_right fun hparameters => ?_
    have hlength := hparameters.length_eq
    split
    · next hcount => exact iff_of_false (by simp) (by omega)
    · next hcount =>
      rw [Except.ok.injEq, eq_comm]
      exact (and_iff_right (by omega)).symm

theorem length_placeholders {first : List Char} {rest : List (List Char)}
    (h : partsFrom none template.toList = first :: rest) :
    (placeholders template).length = rest.length := by
  have hlength := length_placeholdersFrom none 0 template.toList
  rw [h, List.length_cons] at hlength
  exact Nat.succ.inj hlength

/-- An item gives a statement exactly if the schema has fields, those that are required are there,
what is there is coerced, and the placeholders are none or as many as the fields. The statement is
the template, its parameters are those of the fields, and the preview has the literals of the
parameters in place of the placeholders. The first field without a parameter is named otherwise. -/
theorem buildStatement_templated (hoperation : p.operation ∈ [.update, .delete, .select])
    (htemplate : p.template? = some template) :
    ∃ first rest, Parted template.toList (first :: rest) ∧
      ((∃ built, buildStatement p item = .ok built) ↔ p.schema ≠ [] ∧
        (∀ f ∈ p.schema, f.required = true → ∃ json, item.find? f.name = some json) ∧
        (∀ f ∈ p.schema, ∀ json, item.find? f.name = some json → ∃ value, coerce f json = .ok value) ∧
        (rest.length = 0 ∨ rest.length = p.schema.length)) ∧
      (∀ built, buildStatement p item = .ok built → built.statement = template ∧
        List.Forall₂ (Binds item) p.schema built.parameters ∧
        built.preview.toList = first ++
          (List.zipWith (· ++ ·) (built.parameters.map parameterLiteral) rest).flatten) ∧
      ∀ earlier f later, p.schema = earlier ++ f :: later →
        (∀ g ∈ earlier, ∃ value, Binds item g value) → (∀ value, ¬ Binds item f value) →
        ∃ message, RefusesField item f message ∧
          buildStatement p item = .error (.validation message) := by
  obtain ⟨first, rest, hparts⟩ := exists_partsFrom none template.toList
  have hcount : (placeholders template).length = rest.length := length_placeholders hparts
  refine ⟨first, rest, hparts ▸ parted_partsFrom template.toList, ?_, ?_, ?_⟩
  · rw [buildStatement_of_template hoperation htemplate]
    simp only [buildTemplated_eq_ok_iff, hcount]
    have hbinds : (∃ values, List.Forall₂ (Binds item) p.schema values) ↔
        (∀ f ∈ p.schema, f.required = true → ∃ json, item.find? f.name = some json) ∧
        ∀ f ∈ p.schema, ∀ json, item.find? f.name = some json → ∃ value, coerce f json = .ok value := by
      rw [exists_forall₂_binds_iff, ← forall₂_and]
      simp only [exists_binds_iff]
    rw [← and_assoc (c := _ ∨ _), ← hbinds]
    constructor
    · rintro ⟨_, hschema, values, hvalues, hlength, -⟩
      exact ⟨hschema, ⟨values, hvalues⟩, hlength⟩
    · rintro ⟨hschema, ⟨values, hvalues⟩, hlength⟩
      exact ⟨_, hschema, values, hvalues, hlength, rfl⟩
  · intro built hbuilt
    rw [buildStatement_of_template hoperation htemplate, buildTemplated_eq_ok_iff, hcount] at hbuilt
    obtain ⟨-, parameters, hparameters, hlength, rfl⟩ := hbuilt
    have hfew : rest.length ≤ parameters.length := by
      have := hparameters.length_eq
      omega
    exact ⟨rfl, hparameters, by rw [renderTemplate_eq, String.toList_ofList, renderFrom_eq hparts hfew]⟩
  · intro earlier f later hschema hearlier hnone
    obtain ⟨message, hrefuses, herror⟩ := exists_refusesField hnone
    refine ⟨message, hrefuses, ?_⟩
    have hparameters : templateParameters item p.schema = .error (.validation message) :=
      hschema ▸ templateParameters_eq_error hearlier herror
    have hne : p.schema.isEmpty = false := by simp [hschema]
    rw [buildStatement_of_template hoperation htemplate, buildTemplated, hne, hparameters]
    rfl

/-- A question mark in a literal stays, and so do those in what is shown for a parameter. -/
theorem buildStatement_templated_of_quotes :
    let status : Field := { name := "status", type := "string" }
    let id : Field := { name := "id", type := "string", required := true }
    let p : Preset :=
      { operation := .update, schema := [status, id],
        template := "UPDATE t SET '\u00E9?'=? WHERE id=?" }
    (∃ first rest built, Parted p.template.toList (first :: rest) ∧ rest.length = 2 ∧
      buildStatement p [("id", .string "a?'")] = .ok built ∧
      built.parameters = [.null, .string "a?'"] ∧
      built.preview = "UPDATE t SET '\u00E9?'=null WHERE id='a?\\''" ∧
      built.preview.toList = first ++ (List.zipWith (· ++ ·)
        ([.null, .string "a?'"].map parameterLiteral) rest).flatten) ∧
      buildStatement p [] = .error (.validation "required field \"id\" missing") := by
  intro status id p
  have hoperation : p.operation ∈ [.update, .delete, .select] := by decide
  have htemplate : p.template? = some p.template := by decide +kernel
  have habsent (item : Item) (h : item.find? "status" = none) : Binds item status .null :=
    .inr ⟨h, rfl, rfl⟩
  constructor
  · let item : Item := [("id", .string "a?'")]
    have hid : Binds item id (.string "a?'") := by
      have hkind : FieldKind.resolve id = .ok .string := by decide +kernel
      refine .inl ⟨.string "a?'", rfl, ?_⟩
      simp [coerce, Json.isNull, hkind, coerceText, bind, Except.bind]
    have hbuilt : buildStatement p item = .ok ⟨p.template, [.null, .string "a?'"],
        renderTemplate p.template [.null, .string "a?'"]⟩ := by
      rw [buildStatement_of_template hoperation htemplate, buildTemplated_eq_ok_iff]
      exact ⟨List.cons_ne_nil _ _, _, .cons (habsent item rfl) (.cons hid .nil),
        .inr (by decide +kernel), rfl⟩
    obtain ⟨first, rest, hparted, hok, hshown, -⟩ :=
      @buildStatement_templated p p.template item hoperation htemplate
    have hclosed : Closed "UPDATE t SET '\u00E9?'=".toList := closed_iff.mpr (by decide)
    have hlength : rest.length = 2 := by
      obtain ⟨k, hk, -⟩ := (hparted.outside _ " WHERE id=?".toList (by decide)).mp hclosed
      rw [List.length_cons] at hk
      exact ((hok.mp ⟨_, hbuilt⟩).2.2.2).resolve_left (by omega)
    exact ⟨first, rest, _, hparted, hlength, hbuilt, rfl, by decide +kernel,
      (hshown _ hbuilt).2.2⟩
  · obtain ⟨first, rest, -, -, -, hfailed⟩ :=
      @buildStatement_templated p p.template [] hoperation htemplate
    have hearlier : ∀ g ∈ [status], ∃ value, Binds [] g value := by
      simpa using ⟨.null, habsent [] rfl⟩
    have hnone : ∀ value, ¬ Binds [] id value := by
      rintro value (⟨json, hjson, -⟩ | ⟨-, hoptional, -⟩)
      · cases hjson
      · cases hoptional
    obtain ⟨message, hrefuses, herror⟩ := hfailed [status] id [] rfl hearlier hnone
    rcases hrefuses with ⟨-, -, rfl⟩ | ⟨json, e, hjson, -⟩
    · have hmessage : "required field " ++ Text.quoted id.name ++ " missing" =
          "required field \"id\" missing" := by decide +kernel
      rw [herror, hmessage]
    · cases hjson

end Statement

end ItemStore.Upload
