import ItemStore.Upload.Template
import Mathlib.Algebra.Ring.Nat

/-! # Cuts at the placeholders

A template is cut at the byte offsets of its placeholders. Each of them is the size of the characters
before it, so that no cut goes through a character, and what is shown is the template read character
by character with the literals in place of its placeholders.
-/
namespace ItemStore.Upload

/-- The text that follows a quote, with its placeholders replaced character by character. -/
def renderFrom (quote : Option Char) (parameters : List Value) : List Char → List Char
  | [] => []
  | c :: rest =>
    if quote = none ∧ c = '?' then
      match parameters with
      | p :: parameters => parameterLiteral p ++ renderFrom (nextQuote quote c) parameters rest
      | [] => c :: renderFrom (nextQuote quote c) [] rest
    else c :: renderFrom (nextQuote quote c) parameters rest

theorem renderFrom_nil (quote : Option Char) (text : List Char) : renderFrom quote [] text = text := by
  induction text generalizing quote with
  | nil => rfl
  | cons c rest ih => simp [renderFrom, ih]

/-! ### Byte offsets -/

def byteLength (text : List Char) : Nat := (text.map Char.utf8Size).sum

@[simp] theorem byteLength_nil : byteLength [] = 0 := rfl

@[simp] theorem byteLength_cons (c : Char) (text : List Char) :
    byteLength (c :: text) = c.utf8Size + byteLength text := rfl

@[simp] theorem byteLength_append (text rest : List Char) :
    byteLength (text ++ rest) = byteLength text + byteLength rest := by
  simp [byteLength]

/-- Behind whole characters a text can be cut. -/
theorem cutAt?_append (before rest : List Char) :
    cutAt? (byteLength before) (before ++ rest) = some (before, rest) := by
  induction before with
  | nil => simp [cutAt?]
  | cons c before ih =>
    have hpos := c.utf8Size_pos
    obtain ⟨n, hn⟩ : ∃ n, c.utf8Size + byteLength before = n + 1 :=
      Nat.exists_eq_succ_of_ne_zero (by omega)
    have hfits : c.utf8Size ≤ n + 1 := by omega
    have hleft : n + 1 - c.utf8Size = byteLength before := by omega
    rw [byteLength_cons, hn, List.cons_append, cutAt?, if_pos hfits, hleft, ih]
    rfl

/-- A placeholder is one byte. -/
theorem cutAt?_placeholder (rest : List Char) : cutAt? 1 ('?' :: rest) = some (['?'], rest) :=
  cutAt?_append ['?'] rest

/-! ### What is shown -/

theorem fill?_cons {offset position : Nat} {text before rest : List Char}
    (hcut : cutAt? (position - offset) text = some (before, '?' :: rest)) (positions : List Nat)
    (p : Value) (parameters : List Value) :
    fill? offset text (position :: positions) (p :: parameters) =
      (fill? (position + 1) rest positions parameters).map (before ++ parameterLiteral p ++ ·) := by
  rw [fill?, hcut]
  simp only [Option.bind_eq_bind, Option.bind_some, cutAt?_placeholder]
  cases fill? (position + 1) rest positions parameters <;> rfl

/-- Behind the last cut stand some characters without a placeholder and then the rest of the text. -/
theorem fill?_placeholdersFrom (quote : Option Char) (offset : Nat) (plain text : List Char)
    (parameters : List Value) :
    fill? offset (plain ++ text) (placeholdersFrom quote (offset + byteLength plain) text) parameters =
      some (plain ++ renderFrom quote parameters text) := by
  induction text generalizing quote offset plain parameters with
  | nil => cases parameters <;> rfl
  | cons c text ih =>
    by_cases h : quote = none ∧ c = '?'
    · obtain ⟨rfl, rfl⟩ := h
      cases parameters with
      | nil =>
        rw [renderFrom_nil, placeholdersFrom]
        rfl
      | cons p parameters =>
        -- the cut takes the characters that were read so far, and the next one begins behind it
        have hplaces : offset + byteLength plain - offset = byteLength plain := by omega
        have hcut := cutAt?_append plain ('?' :: text)
        rw [← hplaces] at hcut
        have hnext := ih none (offset + byteLength plain + 1) [] parameters
        simp only [placeholdersFrom, renderFrom, and_self, if_true]
        rw [fill?_cons hcut]
        change Option.map _ (fill? _ ([] ++ text) (placeholdersFrom none
          (offset + byteLength plain + 1 + byteLength []) text) parameters) = _
        rw [hnext, Option.map_some, List.nil_append, List.append_assoc]
        rfl
    · have hnext := ih (nextQuote quote c) offset (plain ++ [c]) parameters
      rw [List.append_assoc, List.append_assoc, byteLength_append, byteLength_cons, byteLength_nil,
        Nat.add_zero, ← Nat.add_assoc] at hnext
      simp only [placeholdersFrom, renderFrom, if_neg h]
      exact hnext

/-- Every cut of a template lies between two characters. -/
theorem fill?_placeholders (template : String) (parameters : List Value) :
    fill? 0 template.toList (placeholders template) parameters =
      some (renderFrom none parameters template.toList) :=
  fill?_placeholdersFrom none 0 [] template.toList parameters

theorem renderTemplate_eq (template : String) (parameters : List Value) :
    renderTemplate template parameters =
      String.ofList (renderFrom none parameters template.toList) := by
  rw [renderTemplate, fill?_placeholders, Option.map_some, Option.getD_some]

end ItemStore.Upload
