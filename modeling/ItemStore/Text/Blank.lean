/-! # White space

The 25 characters that the Unicode standard calls white space, and what is left of a text when
they are taken from its ends.
-/
namespace ItemStore.Text

def isBlank (c : Char) : Bool :=
  let n := c.toNat
  (0x09 ≤ n && n ≤ 0x0D) || n == 0x20 || n == 0x85 || n == 0xA0 || n == 0x1680 ||
    (0x2000 ≤ n && n ≤ 0x200A) || n == 0x2028 || n == 0x2029 || n == 0x202F || n == 0x205F ||
    n == 0x3000

theorem isBlank_of_isWhitespace {c : Char} (h : c.isWhitespace = true) : isBlank c = true := by
  simp only [Char.isWhitespace, Bool.or_eq_true, decide_eq_true_eq] at h
  rcases h with ((h | h) | h) | h <;> subst h <;> decide

def trimStart (text : List Char) : List Char := text.dropWhile isBlank

def trimEnd (text : List Char) : List Char := (text.reverse.dropWhile isBlank).reverse

/-- The text without the white space at its two ends. -/
def trim (text : List Char) : List Char := trimEnd (trimStart text)

@[simp] theorem trim_nil : trim [] = [] := rfl

/-- The text without the white space at its two ends. -/
def trimmed (text : String) : String := String.ofList (trim text.toList)

def isBlankText (text : String) : Bool := text.toList.all isBlank

/-- What is left of a text without the blanks at its ends. -/
structure Trims (text inner : List Char) : Prop where
  ends : ∃ lead trail, text = lead ++ inner ++ trail ∧ (∀ c ∈ lead, isBlank c = true) ∧
    ∀ c ∈ trail, isBlank c = true
  head : ∀ c ∈ inner.head?, isBlank c = false
  last : ∀ c ∈ inner.getLast?, isBlank c = false

theorem trimStart_head (text : List Char) : ∀ c ∈ (trimStart text).head?, isBlank c = false := by
  intro c hc
  have hnot := List.head?_dropWhile_not isBlank text
  rw [← trimStart, Option.mem_def.mp hc] at hnot
  simpa using hnot

theorem trimStart_ends (text : List Char) :
    ∃ lead, text = lead ++ trimStart text ∧ ∀ c ∈ lead, isBlank c = true :=
  ⟨text.takeWhile isBlank, (List.takeWhile_append_dropWhile).symm,
    List.all_eq_true.mp List.all_takeWhile⟩

theorem trimEnd_eq (text : List Char) : trimEnd text = (trimStart text.reverse).reverse := rfl

theorem trimEnd_ends (text : List Char) :
    ∃ trail, text = trimEnd text ++ trail ∧ ∀ c ∈ trail, isBlank c = true := by
  obtain ⟨lead, heq, hlead⟩ := trimStart_ends text.reverse
  refine ⟨lead.reverse, ?_, fun c hc => hlead c (List.mem_reverse.mp hc)⟩
  rw [trimEnd_eq, ← List.reverse_append, ← heq, List.reverse_reverse]

theorem trimEnd_last (text : List Char) : ∀ c ∈ (trimEnd text).getLast?, isBlank c = false := by
  rw [trimEnd_eq, List.getLast?_reverse]
  exact trimStart_head text.reverse

/-- What is taken from the end leaves the first character, if it leaves any. -/
theorem trims_trim (text : List Char) : Trims text (trim text) := by
  obtain ⟨lead, hstart, hlead⟩ := trimStart_ends text
  obtain ⟨trail, hend, htrail⟩ := trimEnd_ends (trimStart text)
  refine ⟨⟨lead, trail, ?_, hlead, htrail⟩, ?_, trimEnd_last _⟩
  · rw [List.append_assoc, trim, ← hend, ← hstart]
  · intro c hc
    refine trimStart_head text c ?_
    rw [hend, List.head?_append]
    rw [trim] at hc
    rw [Option.mem_def.mp hc]
    rfl

theorem trimStart_of_head {text : List Char} (h : ∀ c ∈ text.head?, isBlank c = false) :
    trimStart text = text := by
  cases text with
  | nil => rfl
  | cons c text => exact List.dropWhile_cons_of_neg (by simp [h c rfl])

/-- A text without blanks at its ends is left as it is. -/
theorem trim_of_ends {text : List Char} (hhead : ∀ c ∈ text.head?, isBlank c = false)
    (hlast : ∀ c ∈ text.getLast?, isBlank c = false) : trim text = text := by
  rw [trim, trimStart_of_head hhead, trimEnd_eq, trimStart_of_head (by simpa using hlast),
    List.reverse_reverse]

theorem trim_of_not_isBlank {text : List Char} (h : ∀ c ∈ text, isBlank c = false) :
    trim text = text :=
  trim_of_ends (fun c hc => h c (List.mem_of_mem_head? hc))
    fun c hc => h c (List.mem_of_getLast? hc)

end ItemStore.Text
