import ItemStore.Proofs.Json.StringLiteral
import ItemStore.Upload.Plan

/-! # Error texts between quotes

The text of a failure is made ready to stand between double quotes by replacing the double quotes in
it. Whether a string literal comes of it depends on the rest of the message: on the controls and the
backslashes in it, also on those that quoting a name has brought in.
-/
namespace ItemStore
open Text (Symbol symbolsOf)
open Json (IsLiteral IsLetter IsPlain Spelled StringBody betweenQuotes)

/-- A message that may stand between double quotes once single quotes stand in place of its own: no
control character, and no backslash but in an escape, which must not be that of the double quote. -/
abbrev Quotable : List Symbol → Prop :=
  Spelled (fun s => ∀ c ∈ s, 0x20 ≤ c.toNat ∧ c ≠ '\\') (fun c => c ≠ '"' ∧ IsLetter c)

/-- A character that may stand in a name that a message quotes. -/
def SurvivesQuoting (c : Char) : Prop :=
  c ≠ '"' ∧ (Text.isVisible c = true ∨ c = '\n' ∨ c = '\r' ∨ c = '\t')

instance : DecidablePred SurvivesQuoting := fun c => inferInstanceAs
  (Decidable (c ≠ '"' ∧ (Text.isVisible c = true ∨ c = '\n' ∨ c = '\r' ∨ c = '\t')))

section Grammar
variable {text rest : List Symbol}

theorem isPlain_replaced (s : Symbol) :
    IsPlain (s.map fun c => if c = '"' then '\'' else c) ↔
      ∀ c ∈ s, 0x20 ≤ c.toNat ∧ c ≠ '\\' := by
  cases s with
  | none => simp [Json.isPlain_none]
  | some c =>
    rw [Option.map_some, Json.isPlain_some]
    by_cases hquote : c = '"'
    · subst hquote
      simp
    · simp [hquote]

/-- The replacement of double quotes touches no part of an escape but the letter of the double quote,
in place of which no letter of an escape comes. -/
theorem stringBody_replaced :
    StringBody (text.map (Option.map fun c => if c = '"' then '\'' else c)) ↔ Quotable text := by
  have hparts (c : Char) (h : (if c = '"' then '\'' else c) ≠ c) :
      ¬ Spelled.IsEscapePart c ∧ ¬ Spelled.IsEscapePart (if c = '"' then '\'' else c) := by
    by_cases hquote : c = '"'
    · subst hquote
      unfold Spelled.IsEscapePart
      decide
    · exact absurd (if_neg hquote) h
  have hletter (c : Char) : IsLetter (if c = '"' then '\'' else c) ↔ c ≠ '"' ∧ IsLetter c := by
    by_cases hquote : c = '"'
    · subst hquote
      decide
    · rw [if_neg hquote, and_iff_right hquote]
  rw [StringBody, Spelled.map_iff hparts]
  constructor
  · exact .imp (fun s => (isPlain_replaced s).mp) (fun c => (hletter c).mp)
  · exact .imp (fun s => (isPlain_replaced s).mpr) (fun c => (hletter c).mpr)

theorem quotable_cons {c : Char} (hc : 0x20 ≤ c.toNat ∧ c ≠ '\\') :
    Quotable (some c :: rest) ↔ Quotable rest := by
  have hslash : some c ≠ some '\\' := fun h => hc.2 (Option.some.inj h)
  refine (Spelled.cons_iff hslash).trans (and_iff_right ?_)
  rintro _ ⟨⟩
  exact hc

theorem quotable_words {words : String}
    (hwords : (words.toList.all fun c => 0x20 ≤ c.toNat ∧ c ≠ '\\') = true) :
    Quotable (symbolsOf words ++ rest) ↔ Quotable rest := by
  rw [symbolsOf]
  generalize words.toList = cs at hwords
  induction cs with
  | nil => rfl
  | cons c cs ih =>
    obtain ⟨hc, hcs⟩ := Bool.and_eq_true_iff.mp hwords
    rw [List.map_cons, List.cons_append, quotable_cons (of_decide_eq_true hc), ih hcs]

theorem quotable_escape {c : Char} (hc : c ≠ 'u') :
    Quotable (some '\\' :: some c :: rest) ↔ (c ≠ '"' ∧ IsLetter c) ∧ Quotable rest :=
  Spelled.escape_iff (fun h => (h _ rfl).2 rfl) hc

theorem le_of_isVisible {c : Char} (h : Text.isVisible c = true) : 0x20 ≤ c.toNat := by
  unfold Text.isVisible at h
  grind

/-- One case for each way to quote a character. -/
theorem quotable_quoteChar (c : Char) :
    Quotable ((Text.quoteChar c).map some ++ rest) ↔ SurvivesQuoting c ∧ Quotable rest := by
  have hescape {c d : Char} (hd : d ≠ 'u') (h : d ≠ '"' ∧ IsLetter d ↔ SurvivesQuoting c) :
      Quotable (some '\\' :: some d :: rest) ↔ SurvivesQuoting c ∧ Quotable rest :=
    (quotable_escape hd).trans (and_congr_left' h)
  unfold Text.quoteChar
  split
  case h_7 hquote hslash hnewline hreturn htab _ =>
    split
    · next hvisible =>
      have hsurvives : SurvivesQuoting c := ⟨hquote, .inl hvisible⟩
      rw [List.map_singleton, List.singleton_append, and_iff_right hsurvives]
      exact quotable_cons ⟨le_of_isVisible hvisible, hslash⟩
    · next hvisible =>
      have hbrace : Json.hexValue? '\x7b' = none := by decide
      refine iff_of_false ?_ ?_
      · exact Spelled.not_code (fun h => (h _ rfl).2 rfl) (by decide) hbrace
      · rintro ⟨⟨-, hshown | rfl | rfl | rfl⟩, -⟩
        · exact hvisible hshown
        · exact hnewline rfl
        · exact hreturn rfl
        · exact htab rfl
  all_goals exact hescape (by decide) (by decide)

/-- A quoted name keeps the message valid if every character of the name does. -/
theorem quotable_quoted (name : String) :
    Quotable (symbolsOf (Text.quoted name) ++ rest) ↔
      (∀ c ∈ name.toList, SurvivesQuoting c) ∧ Quotable rest := by
  have hchars (cs : List Char) : Quotable ((cs.flatMap Text.quoteChar).map some ++ some '"' :: rest) ↔
      (∀ c ∈ cs, SurvivesQuoting c) ∧ Quotable rest := by
    induction cs with
    | nil => simpa using quotable_cons (by decide)
    | cons c cs ih =>
      rw [List.flatMap_cons, List.map_append, List.append_assoc, quotable_quoteChar, ih,
        List.forall_mem_cons, and_assoc]
  have hquoted : symbolsOf (Text.quoted name) ++ rest =
      some '"' :: ((name.toList.flatMap Text.quoteChar).map some ++ some '"' :: rest) := by
    simp [symbolsOf, Text.quoted]
  rw [hquoted, quotable_cons (by decide), hchars]

end Grammar

namespace Upload

def notAllowed (name id : String) : Failure :=
  .validation ("field " ++ Text.quoted name ++ " is not allowed for preset " ++ Text.quoted id)

theorem quotable_missingField (name : String) :
    Quotable (symbolsOf (missingField name).text) ↔ ∀ c ∈ name.toList, SurvivesQuoting c := by
  have htext : (missingField name).text = "required field " ++ Text.quoted name ++ " missing" := rfl
  have hparts : symbolsOf (missingField name).text =
      symbolsOf "required field " ++ (symbolsOf (Text.quoted name) ++ (symbolsOf " missing" ++ [])) := by
    simp only [htext, Json.symbolsOf_append, List.append_assoc, List.append_nil]
  rw [hparts, quotable_words (by decide), quotable_quoted, quotable_words (by decide)]
  exact and_iff_left .nil

theorem quotable_notAllowed (name id : String) :
    Quotable (symbolsOf (notAllowed name id).text) ↔
      ∀ c ∈ name.toList ++ id.toList, SurvivesQuoting c := by
  have htext : (notAllowed name id).text =
      "field " ++ Text.quoted name ++ " is not allowed for preset " ++ Text.quoted id := rfl
  have hparts : symbolsOf (notAllowed name id).text = symbolsOf "field " ++
      (symbolsOf (Text.quoted name) ++ (symbolsOf " is not allowed for preset " ++
        (symbolsOf (Text.quoted id) ++ []))) := by
    simp only [htext, Json.symbolsOf_append, List.append_assoc, List.append_nil]
  rw [hparts, quotable_words (by decide), quotable_quoted, quotable_words (by decide),
    quotable_quoted, List.forall_mem_append]
  exact and_congr_right' (and_iff_left .nil)

/-- An item is refused because it lacks a field or has one too many. -/
theorem validateItem_eq_error {p : Preset} {item : Item} {failure : Failure}
    (h : validateItem p item = .error failure) :
    (∃ field ∈ p.schema, failure = missingField field.name) ∨
      ∃ name ∈ item.names, failure = notAllowed name p.id := by
  unfold validateItem at h
  split at h
  · cases h
  split at h
  · next field hfield =>
    cases h
    exact .inl ⟨field, List.mem_of_find?_eq_some hfield, rfl⟩
  split at h
  · cases h
  split at h
  · next name hname =>
    cases h
    exact .inr ⟨name, List.mem_of_find?_eq_some hname, rfl⟩
  · cases h

/-- The text of a failure between double quotes is a string literal exactly if its message has no
control character, and no backslash but in an escape that is not the one of the double quote. A
message without controls and backslashes is read back as it is shown. A message about the fields of
an item is valid exactly if the names it quotes have neither double quotes nor characters that are
not shown as themselves, other than line feeds, carriage returns and tabs. -/
theorem isLiteral_quotableText (failure : Failure) :
    (IsLiteral (betweenQuotes failure.quotableText) ↔ Quotable (symbolsOf failure.text)) ∧
    ((∀ c ∈ failure.text.toList, 0x20 ≤ c.toNat ∧ c ≠ '\\') →
      Json.parse? (betweenQuotes failure.quotableText) = some (.string failure.quotableText)) ∧
    ∀ p item, validateItem p item = .error failure →
      (∃ field ∈ p.schema, failure = missingField field.name ∧
        (IsLiteral (betweenQuotes failure.quotableText) ↔
          ∀ c ∈ field.name.toList, SurvivesQuoting c)) ∨
      ∃ name ∈ item.names, failure = notAllowed name p.id ∧
        (IsLiteral (betweenQuotes failure.quotableText) ↔
          ∀ c ∈ name.toList ++ p.id.toList, SurvivesQuoting c) := by
  have hliteral : IsLiteral (betweenQuotes failure.quotableText) ↔
      Quotable (symbolsOf failure.text) := by
    have hsymbols : symbolsOf failure.quotableText =
        (symbolsOf failure.text).map (Option.map fun c => if c = '"' then '\'' else c) := by
      simp [Failure.quotableText, symbolsOf]
    rw [Json.isLiteral_betweenQuotes, hsymbols, stringBody_replaced]
  refine ⟨hliteral, fun hplain => ?_, fun p item hinvalid => ?_⟩
  · apply Json.parse?_betweenQuotes
    intro c hc
    rw [Failure.quotableText, String.toList_ofList] at hc
    obtain ⟨d, hd, rfl⟩ := List.mem_map.mp hc
    exact (isPlain_replaced (some d)).mpr (by rintro _ ⟨⟩; exact hplain d hd)
  · rcases validateItem_eq_error hinvalid with ⟨field, hmem, rfl⟩ | ⟨name, hmem, rfl⟩
    · exact .inl ⟨field, hmem, rfl, hliteral.trans (quotable_missingField field.name)⟩
    · exact .inr ⟨name, hmem, rfl, hliteral.trans (quotable_notAllowed name p.id)⟩

/-- A message about a field with an ordinary name. -/
theorem isLiteral_quotableText_of_id :
    let p : Preset := { id := "p", schema := [{ name := "id", required := true }] }
    let failure := missingField "id"
    validateItem p [] = .error failure ∧
      (∀ c ∈ failure.text.toList, 0x20 ≤ c.toNat ∧ c ≠ '\\') ∧
      failure.quotableText = "required field 'id' missing" ∧
      Json.parse? (betweenQuotes failure.quotableText) = some (.string failure.quotableText) ∧
      ((∃ field ∈ p.schema, failure = missingField field.name ∧
        (IsLiteral (betweenQuotes failure.quotableText) ↔
          ∀ c ∈ field.name.toList, SurvivesQuoting c)) ∨
      ∃ name ∈ Entries.names ([] : Item), failure = notAllowed name p.id ∧
        (IsLiteral (betweenQuotes failure.quotableText) ↔
          ∀ c ∈ name.toList ++ p.id.toList, SurvivesQuoting c)) := by
  intro p failure
  have hinvalid : validateItem p [] = .error failure := rfl
  have hplain : ∀ c ∈ failure.text.toList, 0x20 ≤ c.toNat ∧ c ≠ '\\' := by
    have hall : (failure.text.toList.all fun c => 0x20 ≤ c.toNat ∧ c ≠ '\\') = true := by
      subst failure
      decide +kernel
    exact fun c hc => of_decide_eq_true (List.all_eq_true.mp hall c hc)
  have htext : failure.quotableText = "required field 'id' missing" := by
    subst failure
    decide +kernel
  obtain ⟨-, hread, hfields⟩ := isLiteral_quotableText failure
  exact ⟨hinvalid, hplain, htext, hread hplain, hfields p [] hinvalid⟩

/-- A field whose name has a double quote. The backslash that quoting puts before it stays, before a
single quote, where no escape begins with it. -/
theorem not_isLiteral_of_quote :
    let p : Preset := { id := "p", schema := [{ name := "a\"b", required := true }] }
    ∃ failure, validateItem p [] = .error failure ∧
      failure.quotableText = "required field 'a\\'b' missing" ∧
      ¬ IsLiteral (betweenQuotes failure.quotableText) := by
  intro p
  refine ⟨missingField "a\"b", rfl, by decide +kernel, ?_⟩
  rintro ⟨value, hread⟩
  have hnone : (Json.Written.read? (symbolsOf (betweenQuotes (missingField "a\"b").quotableText))).isNone =
      true := by
    decide +kernel
  rw [hread] at hnone
  cases hnone

end Upload

end ItemStore
