/-! # Searching a text

Where a short text stands in a longer one, and the replacement of a character by a text. A name is
enclosed in quotes by writing each quote inside it twice.
-/
namespace ItemStore.Text

/-- Some part of `text` is `part`. -/
def contains (part : List Char) : List Char → Bool
  | [] => part.isEmpty
  | c :: rest => part.isPrefixOf (c :: rest) || contains part rest

theorem contains_iff {part text : List Char} :
    contains part text = true ↔ part <:+: text := by
  induction text with
  | nil => simp [contains]
  | cons c rest ih => simp [contains, ih, List.infix_cons_iff, List.isPrefixOf_iff_prefix]

/-- What is left after `start`, if the text begins with it. -/
def dropStart? : List Char → List Char → Option (List Char)
  | [], text => some text
  | _ :: _, [] => none
  | p :: start, c :: text => if p == c then dropStart? start text else none

theorem dropStart?_append (start rest : List Char) : dropStart? start (start ++ rest) = some rest := by
  induction start with
  | nil => rfl
  | cons c start ih => simp [dropStart?, ih]

theorem eq_append_of_dropStart? {start text rest : List Char}
    (h : dropStart? start text = some rest) : text = start ++ rest := by
  induction start generalizing text with
  | nil => simpa [dropStart?] using h
  | cons p start ih =>
    cases text with
    | nil => simp [dropStart?] at h
    | cons c text =>
      simp only [dropStart?] at h
      split at h
      · rename_i hpc
        simp_all [ih h]
      · simp at h

/-- What is left after a word that stands at the start in any case. The word is in lower case. -/
def dropWord? (word : String) (text : List Char) : Option (List Char) :=
  (dropStart? word.toList ((text.take word.length).map Char.toLower)).map fun _ =>
    text.drop word.length

/-- Each occurrence of `c` becomes `replacement`. -/
def replaceChar (c : Char) (replacement : List Char) (text : List Char) : List Char :=
  text.flatMap fun d => if d == c then replacement else [d]

theorem replaceChar_of_not_mem {c : Char} {replacement text : List Char} (h : c ∉ text) :
    replaceChar c replacement text = text := by
  induction text with
  | nil => rfl
  | cons d text ih =>
    rw [List.mem_cons, not_or] at h
    simpa [replaceChar, Ne.symm h.1] using ih h.2

/-- The text between two marks, a mark inside it being written twice. -/
def enclosed (mark : Char) (text : String) : List Char :=
  [mark] ++ replaceChar mark [mark, mark] text.toList ++ [mark]

end ItemStore.Text
