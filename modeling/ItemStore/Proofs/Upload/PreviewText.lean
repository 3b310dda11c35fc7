import ItemStore.Proofs.Upload.GeneratedText
import ItemStore.Proofs.Upload.PlaceholderCuts
import ItemStore.Proofs.Upload.ReadableParameters
import ItemStore.Proofs.Value.GenericRoundTrip

/-! # Previews show what is sent

The preview of a generated statement is written from the values of the caller, and what is sent are
the store values that are made of them. Both are shown by the same literals as long as every number
is a signed 64-bit integer, so the preview is the statement with its parameters in place of the
placeholders. No name can disturb this: in its quotes it has no placeholder, whatever its characters.
-/
namespace ItemStore

/-- Every number of the value is an integer of a signed 64-bit word. -/
inductive Json.Integral : Json → Prop
  | null : Integral .null
  | bool (b : Bool) : Integral (.bool b)
  | number {i : Int} (h : Number.fitsInt64 i = true) : Integral (.number (.int i))
  | string (s : String) : Integral (.string s)
  | array {items : List Json} (h : ∀ item ∈ items, Integral item) : Integral (.array items)
  | object {fields : List (String × Json)}
      (h : ∀ name value, (name, value) ∈ fields → Integral value) : Integral (.object fields)

theorem Json.Integral.allNumbers {json : Json} (h : json.Integral) :
    json.AllNumbers JsonNumber.IsInt64 := by
  induction h with
  | null => exact .null
  | bool b => exact .bool b
  | number h => exact .number ⟨_, rfl, h⟩
  | string s => exact .string s
  | array _ ih => exact .array ih
  | object _ ih => exact .object ih

/-! ### Literals -/

namespace Value
variable {json : Json}

theorem marshal_array (items : List Json) : marshal (.array items) = .list (items.map marshal) := by
  rw [marshal, ofJsonWith, ofJsonItemsWith_eq_map]
  rfl

theorem marshal_object (fields : List (String × Json)) :
    marshal (.object fields) = .map (fields.map fun field => (field.1, marshal field.2)) := by
  rw [marshal, ofJsonWith, ofJsonFieldsWith_eq_map]
  rfl

/-- An integer is read back from its digits, so the value is turned back as it was, with all that
is nested in it. -/
theorem toJson_marshal (h : json.Integral) : (marshal json).toJson = .ok json := by
  refine toJson_ofJsonWith ?_ h.allNumbers
  rintro n ⟨i, rfl, hfits⟩
  exact numberToJson_intText hfits

end Value

namespace Upload
open Text (isMark enclosed replaceChar)

theorem parameterLiteral_marshal {json : Json} (h : json.Integral) :
    parameterLiteral (Value.marshal json) = literal json := by
  have hback := Value.toJson_marshal h
  cases h with
  | null => rfl
  | bool b => rfl
  | string s => rfl
  | number h =>
    change (String.ofList (Value.plainNumeral _)).toList = JsonNumber.trimmedText _
    rw [String.toList_ofList, JsonNumber.trimmedText, JsonNumber.int64?, if_pos h]
    rfl
  | array h =>
    rw [Value.marshal_array] at hback ⊢
    simp only [parameterLiteral, hback]
    rfl
  | object h =>
    rw [Value.marshal_object] at hback ⊢
    simp only [parameterLiteral, hback]
    rfl

/-! ### Texts with parameters in them -/

section Quotes
variable {c mark : Char} (parameters : List Value) (rest : List Char)

theorem renderFrom_open (h : isMark c = true) :
    renderFrom none parameters (c :: rest) = c :: renderFrom (some c) parameters rest := by
  have hquote : c = '\'' ∨ c = '"' := by simpa [isMark] using h
  simp [renderFrom, nextQuote, hquote, ne_question_of_isMark h]

theorem renderFrom_plain (h : isMark c = false) (hquestion : c ≠ '?') :
    renderFrom none parameters (c :: rest) = c :: renderFrom none parameters rest := by
  have hquote : ¬ (c = '\'' ∨ c = '"') := by simpa [isMark] using h
  simp [renderFrom, nextQuote, hquote, hquestion]

theorem renderFrom_within (h : c ≠ mark) :
    renderFrom (some mark) parameters (c :: rest) =
      c :: renderFrom (some mark) parameters rest := by
  simp [renderFrom, nextQuote, h]

theorem renderFrom_close :
    renderFrom (some mark) parameters (mark :: rest) = mark :: renderFrom none parameters rest := by
  simp [renderFrom, nextQuote]

/-- Within a literal nothing is replaced. A quote that is written twice closes it and opens it again. -/
theorem renderFrom_replaceChar (hmark : isMark mark = true) (name : List Char) :
    renderFrom (some mark) parameters (replaceChar mark [mark, mark] name ++ mark :: rest) =
      replaceChar mark [mark, mark] name ++ mark :: renderFrom none parameters rest := by
  induction name with
  | nil => exact renderFrom_close parameters rest
  | cons c name ih =>
    by_cases hc : c = mark
    · subst hc
      have htwice : replaceChar c [c, c] (c :: name) = c :: c :: replaceChar c [c, c] name := by
        simp [replaceChar]
      -- the first of the two closes the literal, the second opens it again
      simp only [htwice, List.cons_append, renderFrom_close, renderFrom_open _ _ hmark, ih]
    · have honce : replaceChar mark [mark, mark] (c :: name) =
          c :: replaceChar mark [mark, mark] name := by
        simp [replaceChar, hc]
      simp only [honce, List.cons_append, renderFrom_within _ _ hc, ih]

end Quotes

/-- The text has a placeholder for each of the parameters and leaves no literal open. What is shown
has the literals of the parameters in their place, whatever follows. -/
def Renders (text : List Char) (parameters : List Value) (shown : List Char) : Prop :=
  ∀ later rest, renderFrom none (parameters ++ later) (text ++ rest) =
    shown ++ renderFrom none later rest

namespace Renders
variable {text more shown shownMore : List Char} {parameters others : List Value}

theorem append (h : Renders text parameters shown) (hmore : Renders more others shownMore) :
    Renders (text ++ more) (parameters ++ others) (shown ++ shownMore) := by
  intro later rest
  rw [List.append_assoc, List.append_assoc, h, hmore, List.append_assoc]

theorem plain (h : ∀ c ∈ text, isMark c = false ∧ c ≠ '?') : Renders text [] text := by
  intro later rest
  induction text with
  | nil => rfl
  | cons c text ih =>
    rw [List.forall_mem_cons] at h
    rw [List.cons_append, List.cons_append, ← ih h.2]
    exact renderFrom_plain _ _ h.1.1 h.1.2

theorem placeholder (value : Value) : Renders ['?'] [value] (parameterLiteral value) :=
  fun _ _ => rfl

theorem enclosed {mark : Char} (hmark : isMark mark = true) (name : String) :
    Renders (Text.enclosed mark name) [] (Text.enclosed mark name) := by
  intro later rest
  have hname := renderFrom_replaceChar later rest hmark name.toList
  simp only [Text.enclosed, List.nil_append, List.append_assoc, List.cons_append] at hname ⊢
  rw [renderFrom_open _ _ hmark, hname]

/-- Each of the parts takes one parameter, and what stands between them takes none. -/
theorem join {separator : List Char} (hseparator : ∀ c ∈ separator, isMark c = false ∧ c ≠ '?')
    {part shown : String → List Char} {value : String → Value}
    (hpart : ∀ name, Renders (part name) [value name] (shown name)) (names : List String) :
    Renders (join separator (names.map part)) (names.map value)
      (Upload.join separator (names.map shown)) := by
  induction names with
  | nil => exact plain (by simp [Upload.join])
  | cons name rest ih =>
    cases rest with
    | nil => exact hpart name
    | cons next rest => exact ((hpart name).append (plain hseparator)).append ih

end Renders

/-! ### Generated statements -/

section Texts
variable (value : String → Value)

/-- A name in quotes, some text, and what stands for the value. -/
theorem renders_part {middle : List Char} (h : ∀ c ∈ middle, isMark c = false ∧ c ≠ '?')
    (name : String) :
    Renders (quoteAttribute name ++ (middle ++ ['?'])) [value name]
      (quoteAttribute name ++ (middle ++ parameterLiteral (value name))) :=
  .append (.enclosed rfl name) (.append (.plain h) (.placeholder (value name)))

theorem renders_equations {separator : List Char}
    (h : ∀ c ∈ separator, isMark c = false ∧ c ≠ '?') (names : List String) :
    Renders (equations separator placeholder names) (names.map value)
      (equations separator (fun name => parameterLiteral (value name)) names) := by
  have hequals : ∀ c ∈ ['='], isMark c = false ∧ c ≠ '?' := by simp [isMark]
  exact .join h (renders_part value hequals) names

theorem renders_table (table : String) : Renders (quoteTable table) [] (quoteTable table) :=
  .enclosed rfl table

theorem plain_comma : ∀ c ∈ comma, isMark c = false ∧ c ≠ '?' := by simp [comma, isMark]

theorem plain_conjunction : ∀ c ∈ conjunction, isMark c = false ∧ c ≠ '?' := by
  unfold conjunction
  simp [isMark]

theorem renders_insertText (table : String) (names : List String) :
    Renders (insertText table names placeholder) (names.map value)
      (insertText table names fun name => parameterLiteral (value name)) := by
  have hverb : Renders "INSERT INTO ".toList [] "INSERT INTO ".toList := .plain (by simp [isMark])
  have hopen : Renders " VALUE \x7b".toList [] " VALUE \x7b".toList := .plain (by simp [isMark])
  have hcolon : ∀ c ∈ [':', ' '], isMark c = false ∧ c ≠ '?' := by simp [isMark]
  have hclose : Renders ['\x7d'] [] ['\x7d'] := .plain (by simp [isMark])
  have hnames := Renders.join plain_comma (renders_part value hcolon) names
  have h := (((hverb.append (renders_table table)).append hopen).append hnames).append hclose
  rw [List.append_nil] at h
  exact h

theorem renders_updateText (table : String) (assigned keys : List String) :
    Renders (updateText table assigned keys placeholder) ((assigned ++ keys).map value)
      (updateText table assigned keys fun name => parameterLiteral (value name)) := by
  have hverb : Renders "UPDATE ".toList [] "UPDATE ".toList := .plain (by simp [isMark])
  have hset : Renders " SET ".toList [] " SET ".toList := .plain (by simp [isMark])
  have hwhere : Renders " WHERE ".toList [] " WHERE ".toList := .plain (by simp [isMark])
  have hassigned := renders_equations value plain_comma assigned
  have hkeys := renders_equations value plain_conjunction keys
  have h := ((((hverb.append (renders_table table)).append hset).append hassigned).append
    hwhere).append hkeys
  rw [List.append_nil] at h
  rw [List.map_append]
  exact h

theorem renders_condition (table : String) (names : List String) :
    Renders (quoteTable table ++ " WHERE ".toList ++ equations conjunction placeholder names)
      (names.map value) (quoteTable table ++ " WHERE ".toList ++
        equations conjunction (fun name => parameterLiteral (value name)) names) := by
  have hwhere : Renders " WHERE ".toList [] " WHERE ".toList := .plain (by simp [isMark])
  exact ((renders_table table).append hwhere).append (renders_equations value plain_conjunction names)

theorem renders_deleteText (table : String) (names : List String) :
    Renders (deleteText table names placeholder) (names.map value)
      (deleteText table names fun name => parameterLiteral (value name)) := by
  have hverb : Renders "DELETE FROM ".toList [] "DELETE FROM ".toList := .plain (by simp [isMark])
  unfold deleteText
  simpa only [List.append_assoc, List.nil_append] using
    hverb.append (renders_condition value table names)

theorem renders_selectText (table : String) (names : List String) :
    Renders (selectText table names placeholder) (names.map value)
      (selectText table names fun name => parameterLiteral (value name)) := by
  have hverb : Renders "SELECT * FROM ".toList [] "SELECT * FROM ".toList :=
    .plain (by simp [isMark])
  unfold selectText
  by_cases hnone : names.isEmpty = true
  · simp only [if_pos hnone, List.append_nil]
    rw [List.isEmpty_iff.mp hnone]
    exact hverb.append (renders_table table)
  · simp only [if_neg hnone]
    simpa only [List.append_assoc, List.nil_append] using
      hverb.append (renders_condition value table names)

theorem GeneratedText.renders {p : Preset} {names : List String}
    {text : (String → List Char) → List Char} (h : GeneratedText p names text) :
    Renders (text placeholder) (names.map value)
      (text fun name => parameterLiteral (value name)) := by
  cases h with
  | insert => exact renders_insertText value p.table names
  | update assigned keys => exact renders_updateText value p.table assigned keys
  | delete => exact renders_deleteText value p.table names
  | select => exact renders_selectText value p.table names

end Texts

section Statements
variable {p : Preset} {item : Item} {built : BuiltStatement}

theorem integral_fieldValue (hitem : ∀ field ∈ item, field.2.Integral) (name : String) :
    (fieldValue item name).Integral := by
  unfold fieldValue
  cases hfind : item.find? name with
  | none => exact .null
  | some json => exact hitem (name, json) (Entries.mem_of_find? hfind)

/-- What is shown for the fields are the literals of their parameters, so the two renderings of a
statement are one. -/
theorem preview_statementOf {names : List String} {text : (String → List Char) → List Char}
    (hitem : ∀ field ∈ item, field.2.Integral) (h : GeneratedText p names text) :
    (statementOf text names item).preview =
      renderTemplate (statementOf text names item).statement
        (statementOf text names item).parameters := by
  have hshown : shownValue item =
      fun name => parameterLiteral (Value.marshal (fieldValue item name)) := by
    funext name
    exact (parameterLiteral_marshal (integral_fieldValue hitem name)).symm
  have hrenders := h.renders (fun name => Value.marshal (fieldValue item name)) [] []
  rw [List.append_nil, List.append_nil, renderFrom, List.append_nil] at hrenders
  rw [renderTemplate_eq]
  unfold statementOf fieldParameters
  rw [String.toList_ofList, hrenders, hshown]

end Statements

/-- The literals of the caller's values are those of the parameters, and the preview of a statement
is the statement with its parameters in place of the placeholders. -/
theorem preview_rendersStatement :
    (∀ json : Json, json.Integral → parameterLiteral (Value.marshal json) = literal json) ∧
    ∀ (p : Preset) (item : Item) (built : BuiltStatement), (∀ field ∈ item, field.2.Integral) →
      buildStatement p item = .ok built →
        built.preview = renderTemplate built.statement built.parameters := by
  refine ⟨fun json => parameterLiteral_marshal, ?_⟩
  intro p item built hitem h
  obtain ⟨shown, hshows⟩ := shows_buildStatement h
  cases hshows with
  | generated htext => exact preview_statementOf hitem htext
  | templated => rfl

/-- Names with quotes and question marks, a string with both, and a nested value that is cut. -/
theorem preview_rendersStatement_of_quotes :
    let p : Preset :=
      { table := "a\"?", operation := .update, schema := [{ name := "it's?", required := true }] }
    let note : Json :=
      .array [.ofInt (-7), .object [("?", .string "a text of which only the start is shown")], .null]
    let item : Item := [("note", note), ("it's?", .string "'?")]
    note.Integral ∧ (∀ field ∈ item, field.2.Integral) ∧
      parameterLiteral (Value.marshal note) = literal note ∧
      literal note = "[-7,\x7b\"?\":\"a text of which only the start is sho...".toList ∧
      ∃ built, buildStatement p item = .ok built ∧
        built.statement = "UPDATE \"a\"\"?\" SET 'note'=? WHERE 'it''s?'=?" ∧
        built.preview = renderTemplate built.statement built.parameters := by
  intro p note item
  have hnumber : (Json.ofInt (-7)).Integral := .number (by decide)
  have hobject :
      (Json.object [("?", .string "a text of which only the start is shown")]).Integral := by
    apply Json.Integral.object
    intro name value hmem
    cases List.mem_singleton.mp hmem
    exact .string _
  have hnote : note.Integral := by
    apply Json.Integral.array
    simp [hnumber, hobject, Json.Integral.null]
  have hitem : ∀ field ∈ item, field.2.Integral := by
    simpa [item, hnote] using Json.Integral.string "'?"
  have hnames : sortedNames item = ["it's?", "note"] := by
    simp [sortedNames, item, List.mergeSort]
  have hbuilt : buildStatement p item =
      .ok (statementOf (updateText p.table ["note"] ["it's?"]) ["note", "it's?"] item) := by
    rw [buildStatement_of_update rfl (by decide), buildUpdate_eq_ok_iff hnames]
    exact ⟨by decide, by decide, rfl⟩
  exact ⟨hnote, hitem, preview_rendersStatement.1 note hnote, by decide +kernel, _, hbuilt,
    by decide +kernel, preview_rendersStatement.2 p item _ hitem hbuilt⟩

end Upload

end ItemStore
