import ItemStore.Query.Statement
import ItemStore.Proofs.Text.LetterCase

/-! # Readers and searches at a quote

Neither the keywords nor the operators have a single quote in them. So what is read or searched for
in a text before a quote does not depend on what follows the quote, unless a name is being read.
-/
namespace ItemStore

namespace Text

theorem isPrefixOf_append_cons {part : List Char} {c : Char} (h : c ∉ part) (text rest : List Char) :
    part.isPrefixOf (text ++ c :: rest) = part.isPrefixOf text := by
  induction part generalizing text with
  | nil => simp
  | cons p part ih =>
    simp only [List.mem_cons, not_or] at h
    obtain ⟨hp, hpart⟩ := h
    cases text with
    | nil =>
      have hpc : (p == c) = false := by simpa using Ne.symm hp
      simp [List.isPrefixOf, hpc]
    | cons d text => simp [List.isPrefixOf, ih hpart]

theorem contains_append_cons {part : List Char} {c : Char} (h : c ∉ part) (text rest : List Char) :
    contains part (text ++ c :: rest) = (contains part text || contains part rest) := by
  induction text with
  | nil =>
    have hprefix := isPrefixOf_append_cons h [] rest
    rw [List.nil_append] at hprefix
    rw [List.nil_append, contains.eq_2, hprefix, contains.eq_1]
    cases part <;> rfl
  | cons d text ih =>
    have hprefix := isPrefixOf_append_cons h (d :: text) rest
    rw [List.cons_append] at hprefix ⊢
    rw [contains, contains, hprefix, ih, Bool.or_assoc]

theorem upperText_append_quote (text rest : List Char) :
    upperText (text ++ '\'' :: rest) = upperText text ++ '\'' :: upperText rest := by
  simp [upperText, upper]

def dropFitting? (fits : Char → Char → Bool) : List Char → List Char → Option (List Char)
  | [], text => some text
  | _ :: _, [] => none
  | p :: pattern, c :: text => if fits p c then dropFitting? fits pattern text else none

theorem dropFitting?_append_quote {fits : Char → Char → Bool} {pattern : List Char}
    (h : ∀ p ∈ pattern, fits p '\'' = false) (text rest : List Char) :
    dropFitting? fits pattern (text ++ '\'' :: rest) =
      (dropFitting? fits pattern text).map (· ++ '\'' :: rest) := by
  induction pattern generalizing text with
  | nil => rfl
  | cons p pattern ih =>
    obtain ⟨hp, hpattern⟩ := List.forall_mem_cons.mp h
    cases text with
    | nil => simp [dropFitting?, hp]
    | cons c text =>
      simp only [List.cons_append, dropFitting?, ih hpattern]
      split <;> rfl

theorem length_of_dropFitting? {fits : Char → Char → Bool} {pattern text rest : List Char}
    (h : dropFitting? fits pattern text = some rest) : pattern.length ≤ text.length := by
  induction pattern generalizing text with
  | nil => exact Nat.zero_le _
  | cons p pattern ih =>
    cases text with
    | nil => cases h
    | cons c text =>
      rw [dropFitting?] at h
      split at h
      · exact Nat.succ_le_succ (ih h)
      · cases h

theorem dropStart?_eq (start text : List Char) :
    dropStart? start text = dropFitting? (· == ·) start text := by
  induction start generalizing text with
  | nil => rfl
  | cons p start ih => cases text <;> simp [dropStart?, dropFitting?, ih]

theorem dropWord?_eq (word : String) (text : List Char) :
    dropWord? word text = dropFitting? (fun w c => w == c.toLower) word.toList text := by
  rw [dropWord?, ← String.length_toList]
  generalize word.toList = letters
  induction letters generalizing text with
  | nil => rfl
  | cons w letters ih =>
    cases text with
    | nil => rfl
    | cons c text =>
      simp only [List.length_cons, List.take_succ_cons, List.map_cons, dropStart?, dropFitting?,
        List.drop_succ_cons]
      split
      · exact ih text
      · rfl

section Readers
variable (text rest : List Char)

theorem trimStart_append_quote :
    trimStart (text ++ '\'' :: rest) = trimStart text ++ '\'' :: rest := by
  induction text with
  | nil => rfl
  | cons c text ih =>
    simp only [trimStart] at ih
    by_cases hc : isBlank c = true <;> simp [trimStart, hc, ih]

theorem dropStart?_append_quote {start : List Char} (h : '\'' ∉ start) :
    dropStart? start (text ++ '\'' :: rest) = (dropStart? start text).map (· ++ '\'' :: rest) := by
  rw [dropStart?_eq, dropStart?_eq]
  refine dropFitting?_append_quote (fun p hp => ?_) text rest
  simpa using fun heq : p = '\'' => h (heq ▸ hp)

theorem dropWord?_append_quote {word : String} (h : '\'' ∉ word.toList) :
    dropWord? word (text ++ '\'' :: rest) = (dropWord? word text).map (· ++ '\'' :: rest) := by
  have hlower : '\''.toLower = '\'' := by decide
  rw [dropWord?_eq, dropWord?_eq]
  refine dropFitting?_append_quote (fun w hw => ?_) text rest
  rw [hlower]
  simpa using fun heq : w = '\'' => h (heq ▸ hw)

end Readers

end Text

namespace Statement
open Text (isBlank trimStart dropStart? dropWord? dropFitting? trimStart_append_quote
  dropStart?_append_quote dropWord?_append_quote)

theorem dropKey?_eq (key text : List Char) :
    dropKey? key text = dropFitting? Text.sameLetter key text := by
  induction key generalizing text with
  | nil => rfl
  | cons k key ih => cases text <;> simp [dropKey?, dropFitting?, ih]

section Readers
variable (text rest : List Char)

theorem dropBlanks?_append_quote :
    dropBlanks? (text ++ '\'' :: rest) = (dropBlanks? text).map (· ++ '\'' :: rest) := by
  cases text with
  | nil => rfl
  | cons c text =>
    simp only [List.cons_append, dropBlanks?, trimStart_append_quote]
    split <;> rfl

theorem dropKeyword?_append_quote {word : String} (h : '\'' ∉ word.toList) :
    dropKeyword? word (text ++ '\'' :: rest) = (dropKeyword? word text).map (· ++ '\'' :: rest) := by
  rw [dropKeyword?, dropKeyword?, dropWord?_append_quote text rest h]
  cases dropWord? word text with
  | none => rfl
  | some after => exact dropBlanks?_append_quote after rest

theorem dropKey?_append_quote {key : List Char} (h : '\'' ∉ key) :
    dropKey? key (text ++ '\'' :: rest) = (dropKey? key text).map (· ++ '\'' :: rest) := by
  rw [dropKey?_eq, dropKey?_eq]
  refine Text.dropFitting?_append_quote (fun k hk => ?_) text rest
  refine Bool.eq_false_iff.mpr fun hsame => h ?_
  rwa [← Text.eq_of_sameLetter (by decide) hsame]

theorem takeRun?_append {accepts : Char → Bool} {text : List Char}
    (h : ∃ c ∈ text, accepts c = false) (more : List Char) :
    takeRun? accepts (text ++ more) =
      (takeRun? accepts text).map fun (run, later) => (run, later ++ more) := by
  have hwhile : (text ++ more).takeWhile accepts = text.takeWhile accepts ∧
      (text ++ more).dropWhile accepts = text.dropWhile accepts ++ more := by
    induction text with
    | nil => simp at h
    | cons c text ih =>
      by_cases hc : accepts c = true
      · have htext : ∃ c ∈ text, accepts c = false := by simpa [hc] using h
        simp [hc, ih htext]
      · simp [hc]
  rw [takeRun?, takeRun?, hwhile.1, hwhile.2]
  split <;> rfl

/-- No operator begins with a quote or goes on with one. -/
theorem comparison?_append_quote : comparison? (text ++ '\'' :: rest) = comparison? text := by
  have hin : '\'' ∉ "in".toList := by simp
  have hbetween : '\'' ∉ "between".toList := by simp
  unfold comparison?
  rw [trimStart_append_quote]
  generalize trimStart text = text
  -- the shorter text settles the alternative, and the longer one begins with the same two characters
  symm
  dsimp only
  split
  · rfl
  · rfl
  · rfl
  · rfl
  · next hequal hless hgreater hunequal =>
    split
    · next tail heq => cases text <;> simp_all
    · next tail heq => cases text <;> simp_all
    · next tail heq => cases text <;> simp_all
    · next tail heq => 
      rcases text with _ | ⟨c, _ | ⟨d, text⟩⟩ <;> simp_all
    · rw [dropWord?_append_quote text rest hin, dropWord?_append_quote text rest hbetween]
      cases dropWord? "in" text <;> cases dropWord? "between" text <;> rfl

theorem takeQuoted?_append_quote {text : List Char} (h : ∀ name, text = '"' :: name → '"' ∈ name)
    (rest : List Char) :
    takeQuoted? (text ++ '\'' :: rest) =
      (takeQuoted? text).map fun (name, later) => (name, later ++ '\'' :: rest) := by
  have hmark : '\'' ∉ ['"'] := by simp
  rw [takeQuoted?, takeQuoted?, dropStart?_append_quote text rest hmark]
  cases hstart : dropStart? ['"'] text with
  | none => rfl
  | some inner =>
    have hends : ∃ c ∈ inner, (c != '"') = false :=
      ⟨'"', h inner (Text.eq_append_of_dropStart? hstart), by simp⟩
    simp only [Option.map_some, Option.bind_eq_bind, Option.bind_some, takeRun?_append hends]
    cases takeRun? (· != '"') inner with
    | none => rfl
    | some run =>
      obtain ⟨name, later⟩ := run
      simp only [Option.map_some, Option.bind_some, dropStart?_append_quote later rest hmark]
      cases dropStart? ['"'] later <;> rfl

theorem isBoundary_append_quote (before : Option Char) :
    isBoundary before (text ++ '\'' :: rest).head? = isBoundary before text.head? := by
  have hquote : Text.isWord '\'' = false := by decide
  cases text <;> simp [isBoundary, hquote]

theorem quotedComparison?_append_quote {key : List Char} (h : '\'' ∉ key) :
    quotedComparison? key (text ++ '\'' :: rest) = quotedComparison? key text := by
  have hmark : '\'' ∉ ['"'] := by simp
  rw [quotedComparison?, quotedComparison?, dropStart?_append_quote text rest hmark]
  cases dropStart? ['"'] text with
  | none => rfl
  | some inner =>
    simp only [Option.map_some, Option.bind_eq_bind, Option.bind_some,
      dropKey?_append_quote inner rest h]
    cases dropKey? key inner with
    | none => rfl
    | some later =>
      simp only [Option.map_some, Option.bind_some, dropStart?_append_quote later rest hmark]
      cases dropStart? ['"'] later with
      | none => rfl
      | some after => exact comparison?_append_quote after rest

/-- A quote ends a word as the end of a text does. -/
theorem bareComparison?_append_quote {key : List Char} (h : '\'' ∉ key) (before : Option Char) :
    bareComparison? key before (text ++ '\'' :: rest) = bareComparison? key before text := by
  rw [bareComparison?, bareComparison?, dropKey?_append_quote text rest h,
    isBoundary_append_quote text rest]
  cases hkey : dropKey? key text with
  | none => rfl
  | some later =>
    -- the key was matched before the quote, so its last letter is the same one
    have hlength : key.length ≤ text.length := by
      rw [dropKey?_eq] at hkey
      exact Text.length_of_dropFitting? hkey
    simp only [Option.map_some, Option.bind_eq_bind, Option.bind_some,
      List.take_append_of_le_length hlength, isBoundary_append_quote later rest,
      comparison?_append_quote]

theorem firstComparison?_append_quote {key : List Char} (h : '\'' ∉ key) (before : Option Char) :
    firstComparison? key before (text ++ '\'' :: rest) =
      (firstComparison? key before text).or (firstComparison? key (some '\'') rest) := by
  induction text generalizing before with
  | nil =>
    have hquoted := quotedComparison?_append_quote [] rest h
    have hbare := bareComparison?_append_quote [] rest h before
    rw [List.nil_append] at hquoted hbare ⊢
    rw [firstComparison?, firstComparison?, hquoted, hbare]
  | cons c text ih =>
    have hquoted := quotedComparison?_append_quote (c :: text) rest h
    have hbare := bareComparison?_append_quote (c :: text) rest h before
    rw [List.cons_append] at hquoted hbare ⊢
    rw [firstComparison?, firstComparison?, hquoted, hbare, ih]
    simp only [Option.or_assoc]

end Readers

end Statement

end ItemStore
