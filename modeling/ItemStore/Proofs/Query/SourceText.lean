import ItemStore.Proofs.Query.LiteralContents

/-! # Searching a statement word by word

A statement is spelled from keywords in any case, names with or without double quotes, and blanks
between them. All that a search for a source looks at is what follows the keyword `FROM`. So it passes
over a word, unless the word ends in the letters of that keyword.
-/
namespace ItemStore

namespace Text

theorem toLower_of_isBlank {c : Char} (h : isBlank c = true) : c.toLower = c := by
  unfold Char.toLower
  split
  · next hupper =>
    have hlow : 65 ≤ c.toNat := hupper.1
    have hhigh : c.toNat ≤ 90 := hupper.2
    simp only [isBlank, Bool.or_eq_true, Bool.and_eq_true, decide_eq_true_eq, beq_iff_eq] at h
    omega
  · rfl

theorem toLower_ne_of_isBlank {c d : Char} (h : isBlank c = true) (hd : isBlank d = false) :
    c.toLower ≠ d := by
  rw [toLower_of_isBlank h]
  rintro rfl
  rw [h] at hd
  cases hd

end Text

namespace Statement
open Text (isBlank trimStart dropStart? dropWord? dropFitting?)

def IsPlain (c : Char) : Prop := isBlank c = false ∧ isQuote c = false ∧ c ≠ ';'

structure Gap where
  text : List Char
  nonempty : text ≠ []
  blank : ∀ c ∈ text, isBlank c = true

def Gap.space : Gap := ⟨[' '], by simp, by simp [isBlank]⟩

theorem Gap.head_append (gap : Gap) (rest : List Char) :
    ∀ c ∈ (gap.text ++ rest).head?, isBlank c = true := by
  obtain ⟨c, blanks, hgap⟩ := List.exists_cons_of_ne_nil gap.nonempty
  intro d hd
  rw [hgap, List.cons_append, List.head?_cons, Option.mem_some_iff] at hd
  exact hd ▸ gap.blank c (hgap ▸ List.mem_cons_self)

/-- A name that can do without double quotes, and whether it is spelled with them. -/
structure Name where
  name : List Char
  nonempty : name ≠ []
  plain : ∀ c ∈ name, IsPlain c
  quoted : Bool

namespace Name

def text (n : Name) : List Char := if n.quoted then '"' :: (n.name ++ ['"']) else n.name

theorem text_of_quoted {n : Name} (h : n.quoted = true) : n.text = '"' :: (n.name ++ ['"']) := by
  simp [text, h]

theorem text_of_bare {n : Name} (h : n.quoted = false) : n.text = n.name := by
  simp [text, h]

theorem ne_mark (n : Name) : ∀ c ∈ n.name, c ≠ '"' := by
  rintro c hc rfl
  exact absurd (n.plain _ hc).2.1 (by decide)

theorem not_isBlank_text (n : Name) : ∀ c ∈ n.text, isBlank c = false := by
  have hmark : isBlank '"' = false := by decide
  intro c hc
  rw [text] at hc
  split at hc
  · rcases List.mem_cons.mp hc with rfl | hc
    · exact hmark
    · rcases List.mem_append.mp hc with hc | hc
      · exact (n.plain c hc).1
      · rwa [List.mem_singleton.mp hc]
  · exact (n.plain c hc).1

theorem text_ne_nil (n : Name) : n.text ≠ [] := by
  rw [text]
  split
  · exact List.cons_ne_nil _ _
  · exact n.nonempty

theorem head_text_append (n : Name) (rest : List Char) :
    ∀ c ∈ (n.text ++ rest).head?, isBlank c = false := by
  obtain ⟨c, text, htext⟩ := List.exists_cons_of_ne_nil n.text_ne_nil
  have hc := n.not_isBlank_text c (htext ▸ List.mem_cons_self)
  simpa [htext] using hc

theorem head_bare_append {n : Name} (h : n.quoted = false) (rest : List Char) :
    (n.text ++ rest).head? ≠ some '"' := by
  obtain ⟨c, text, htext⟩ := List.exists_cons_of_ne_nil n.nonempty
  have hc := n.ne_mark c (htext ▸ List.mem_cons_self)
  simpa [text_of_bare h, htext] using hc

end Name

structure Keyword (word : String) where
  text : List Char
  lower : text.map Char.toLower = word.toList

structure IsName (word : String) : Prop where
  nonempty : word.toList ≠ []
  plain : ∀ c ∈ word.toList, IsPlain c

theorem isName_from : IsName "from" := ⟨by simp, by simp [IsPlain, isBlank, isQuote]⟩

theorem isName_index : IsName "index" := ⟨by simp, by simp [IsPlain, isBlank, isQuote]⟩

theorem isName_where : IsName "where" := ⟨by simp, by simp [IsPlain, isBlank, isQuote]⟩

namespace Keyword
variable {word : String} (keyword : Keyword word) (hword : IsName word)
include hword

theorem ne_nil : keyword.text ≠ [] := by
  intro hnil
  have hlower := keyword.lower
  rw [hnil] at hlower
  exact hword.nonempty hlower.symm

/-- In any case, the letters of a keyword are plain. -/
theorem plain : ∀ c ∈ keyword.text, IsPlain c := by
  intro c hc
  have hlower : c.toLower ∈ word.toList := keyword.lower ▸ List.mem_map_of_mem hc
  have hself (h : c.toLower = c) : IsPlain c := h ▸ hword.plain _ hlower
  refine ⟨Bool.eq_false_iff.mpr fun hblank => ?_, Bool.eq_false_iff.mpr fun hquote => ?_, ?_⟩
  · exact Text.toLower_ne_of_isBlank hblank (hword.plain _ hlower).1 rfl
  · rw [isQuote, Bool.or_eq_true, beq_iff_eq, beq_iff_eq] at hquote
    rcases hquote with rfl | rfl
    · exact absurd (hself rfl).2.1 (by decide)
    · exact absurd (hself rfl).2.1 (by decide)
  · rintro rfl
    exact (hself rfl).2.2 rfl

def toName : Name := ⟨keyword.text, keyword.ne_nil hword, keyword.plain hword, false⟩

theorem head_append (rest : List Char) : ∀ c ∈ (keyword.text ++ rest).head?, isBlank c = false :=
  (keyword.toName hword).head_text_append rest

theorem head_append_ne_mark (rest : List Char) : (keyword.text ++ rest).head? ≠ some '"' :=
  (keyword.toName hword).head_bare_append rfl rest

end Keyword

/-! ### Reading a word -/

section Readers
variable {rest : List Char}

theorem dropBlanks?_gap (gap : Gap) (hrest : ∀ c ∈ rest.head?, isBlank c = false) :
    dropBlanks? (gap.text ++ rest) = some rest := by
  obtain ⟨c, blanks, hgap⟩ := List.exists_cons_of_ne_nil gap.nonempty
  have hblank := gap.blank
  rw [hgap] at hblank
  have hdrop : trimStart (blanks ++ rest) = rest := by
    rw [trimStart, List.dropWhile_append_of_pos fun c hc => hblank c (List.mem_cons_of_mem _ hc)]
    cases rest with
    | nil => rfl
    | cons d rest => exact List.dropWhile_cons_of_neg (by simp [hrest d rfl])
  rw [hgap, List.cons_append, dropBlanks?, if_pos (hblank c List.mem_cons_self), hdrop]

theorem dropWord?_keyword {word : String} (keyword : Keyword word) :
    dropWord? word (keyword.text ++ rest) = some rest := by
  have hlength : word.length = keyword.text.length := by
    rw [← String.length_toList, ← keyword.lower, List.length_map]
  have hself : dropStart? word.toList word.toList = some [] := by
    simpa using Text.dropStart?_append word.toList []
  rw [dropWord?, hlength, List.take_left, List.drop_left, keyword.lower, hself]
  rfl

theorem dropKeyword?_keyword {word : String} (keyword : Keyword word) (gap : Gap)
    (hrest : ∀ c ∈ rest.head?, isBlank c = false) :
    dropKeyword? word (keyword.text ++ (gap.text ++ rest)) = some rest := by
  rw [dropKeyword?, dropWord?_keyword, Option.bind_some, dropBlanks?_gap gap hrest]

theorem dropKeyword?_run {word : String} {run : List Char} (hrun : ∀ c ∈ run, isBlank c = false)
    (hrest : ∀ c ∈ rest.head?, c.toLower ∉ word.toList) :
    dropKeyword? word (run ++ rest) =
      if run.map Char.toLower = word.toList then dropBlanks? rest else none := by
  rw [dropKeyword?, Text.dropWord?_eq]
  generalize word.toList = letters at hrest
  induction run generalizing letters with
  | nil =>
    cases letters with
    | nil => rfl
    | cons w letters =>
      cases rest with
      | nil => rfl
      | cons c rest =>
        have hc : w ≠ c.toLower := by
          have := hrest c rfl
          simp only [List.mem_cons, not_or] at this
          exact Ne.symm this.1
        simp [dropFitting?, hc]
  | cons c run ih =>
    obtain ⟨hc, hrun⟩ := List.forall_mem_cons.mp hrun
    cases letters with
    | nil => simp [dropFitting?, dropBlanks?, hc]
    | cons w letters =>
      have hletters : ∀ d ∈ rest.head?, d.toLower ∉ letters :=
        fun d hd hmem => hrest d hd (List.mem_cons_of_mem _ hmem)
      rw [List.cons_append, dropFitting?]
      by_cases hw : w = c.toLower
      · simp [hw, ih hrun letters hletters]
      · simp [hw, Ne.symm hw]

/-- No keyword ends a text, as blanks have to follow it. -/
theorem dropKeyword?_end {word : String} {run : List Char} (hrun : ∀ c ∈ run, isBlank c = false) :
    dropKeyword? word run = none := by
  have hnil : ∀ c ∈ ([] : List Char).head?, c.toLower ∉ word.toList := fun c hc => by cases hc
  rw [← List.append_nil run, dropKeyword?_run hrun hnil]
  split <;> rfl

theorem takeRun?_run {accepts : Char → Bool} {run : List Char} (hne : run ≠ [])
    (hrun : ∀ c ∈ run, accepts c = true) (hrest : ∀ c ∈ rest.head?, accepts c = false) :
    takeRun? accepts (run ++ rest) = some (run, rest) := by
  have hends : rest.takeWhile accepts = [] ∧ rest.dropWhile accepts = rest := by
    cases rest with
    | nil => exact ⟨rfl, rfl⟩
    | cons c rest => simp [hrest c rfl]
  rw [takeRun?, List.takeWhile_append_of_pos hrun, List.dropWhile_append_of_pos hrun, hends.1, hends.2,
    List.append_nil]
  simp [hne]

theorem takeQuoted?_name {n : Name} (h : n.quoted = true) :
    takeQuoted? (n.text ++ rest) = some (String.ofList n.name, rest) := by
  have hrun : takeRun? (· != '"') (n.name ++ '"' :: rest) = some (n.name, '"' :: rest) :=
    takeRun?_run n.nonempty (by simpa using n.ne_mark) (by simp)
  simp [takeQuoted?, Name.text_of_quoted h, dropStart?, hrun]

theorem takeQuoted?_bare {n : Name} (h : n.quoted = false) : takeQuoted? (n.text ++ rest) = none :=
  takeQuoted?_of_head (n.head_bare_append h rest)

theorem takeRun?_bare {n : Name} (h : n.quoted = false) (hrest : ∀ c ∈ rest.head?, isBlank c = true) :
    takeRun? (fun c => !isBlank c && c != '"') (n.text ++ rest) = some (n.name, rest) ∧
      takeRun? (fun c => !isBlank c && c != '"' && c != ';') (n.text ++ rest) =
        some (n.name, rest) := by
  rw [Name.text_of_bare h]
  constructor
  · refine takeRun?_run n.nonempty (fun c hc => ?_) fun c hc => by simp [hrest c hc]
    simp [(n.plain c hc).1, n.ne_mark c hc]
  · refine takeRun?_run n.nonempty (fun c hc => ?_) fun c hc => by simp [hrest c hc]
    simp [(n.plain c hc).1, n.ne_mark c hc, (n.plain c hc).2.2]

theorem takeRun?_keyword {word : String} (keyword : Keyword word) (hword : IsName word)
    (hrest : ∀ c ∈ rest.head?, isBlank c = true) :
    takeRun? (fun c => !isBlank c && c != '"') (keyword.text ++ rest) = some (keyword.text, rest) ∧
      takeRun? (fun c => !isBlank c && c != '"' && c != ';') (keyword.text ++ rest) =
        some (keyword.text, rest) :=
  takeRun?_bare (n := keyword.toName hword) rfl hrest

theorem takeRun?_quoted {accepts : Char → Bool} (hmark : accepts '"' = false) {n : Name}
    (h : n.quoted = true) : takeRun? accepts (n.text ++ rest) = none := by
  simp [takeRun?, Name.text_of_quoted h, hmark]

theorem unquoted_of_not_isQuote {name : List Char} (h : ∀ c ∈ name, isQuote c = false) :
    unquoted name = String.ofList name := by
  have hdrop {cs : List Char} (hcs : ∀ c ∈ cs, isQuote c = false) : cs.dropWhile isQuote = cs := by
    cases cs with
    | nil => rfl
    | cons c cs => exact List.dropWhile_cons_of_neg (by simp [hcs c])
  rw [unquoted, hdrop h, hdrop (by simpa using h), List.reverse_reverse]

theorem unquoted_name (n : Name) : unquoted n.name = String.ofList n.name :=
  unquoted_of_not_isQuote fun c hc => (n.plain c hc).2.1

theorem unquoted_keyword {word : String} (keyword : Keyword word) (hword : IsName word) :
    unquoted keyword.text = String.ofList keyword.text :=
  unquoted_name (keyword.toName hword)

/-- No form with double quotes begins where the keyword is followed by something else. -/
theorem quoted_eq_none {text : List Char}
    (h : ∀ rest, dropKeyword? "from" text = some rest → rest.head? ≠ some '"') :
    quotedIndexed? text = none ∧ quotedTable? text = none := by
  rw [quotedIndexed?, quotedTable?]
  cases hfrom : dropKeyword? "from" text with
  | none => exact ⟨rfl, rfl⟩
  | some rest => simp [takeQuoted?_of_head (h rest hfrom)]

end Readers

/-! ### Passing over a word -/

def BeginsFrom {α : Type} (find : List Char → Option α) : Prop :=
  ∀ text, dropKeyword? "from" text = none → find text = none

theorem beginsFrom_quotedIndexed : BeginsFrom quotedIndexed? := fun _ h => by
  rw [quotedIndexed?, h]
  rfl

theorem beginsFrom_quotedTable : BeginsFrom quotedTable? := fun _ h => by
  rw [quotedTable?, h]
  rfl

theorem beginsFrom_bareIndexed : BeginsFrom bareIndexed? := fun _ h => by
  rw [bareIndexed?, h]
  rfl

theorem beginsFrom_bareTable : BeginsFrom bareTable? := fun _ h => by
  rw [bareTable?, h]
  rfl

def LeavesKeyword (text : List Char) : Prop := ∀ c ∈ text.head?, c.toLower ∉ "from".toList

theorem Gap.leavesKeyword (gap : Gap) (rest : List Char) : LeavesKeyword (gap.text ++ rest) := by
  intro c hc hmem
  exact Text.toLower_ne_of_isBlank (gap.head_append rest c hc) (isName_from.plain _ hmem).1 rfl

section Searches
variable {α : Type} {find : List Char → Option α} {part rest : List Char}

theorem search?_eq_none_iff : search? find rest = none ↔ ∀ t, t <:+ rest → find t = none := by
  induction rest with
  | nil => simp [search?]
  | cons c rest ih =>
    rw [search?, Option.or_eq_none_iff, ih]
    constructor
    · rintro ⟨hhere, hlater⟩ t ht
      rcases List.suffix_cons_iff.mp ht with rfl | ht
      · exact hhere
      · exact hlater t ht
    · exact fun h => ⟨h _ List.suffix_rfl, fun t ht => h t (ht.trans (List.suffix_cons c rest))⟩

theorem search?_skip (h : ∀ t, t <:+ part → t ≠ [] → find (t ++ rest) = none) :
    search? find (part ++ rest) = search? find rest := by
  induction part with
  | nil => rfl
  | cons c part ih =>
    have hc := h (c :: part) List.suffix_rfl (List.cons_ne_nil _ _)
    rw [List.cons_append] at hc ⊢
    rw [search?, hc, Option.none_or]
    exact ih fun t ht => h t (ht.trans (List.suffix_cons c part))

variable (hfind : BeginsFrom find)
include hfind

theorem BeginsFrom.of_head {c : Char} (hc : c.toLower ≠ 'f') : find (c :: rest) = none := by
  refine hfind _ ?_
  rw [dropKeyword?, Text.dropWord?_eq]
  simp [dropFitting?, Ne.symm hc]

/-- No form begins in a part that has no `F`. -/
theorem search?_pass (h : ∀ c ∈ part, c.toLower ≠ 'f') :
    search? find (part ++ rest) = search? find rest := by
  refine search?_skip fun t ht hne => ?_
  obtain ⟨c, t, rfl⟩ := List.exists_cons_of_ne_nil hne
  exact hfind.of_head (h c (ht.subset List.mem_cons_self))

theorem search?_gap (gap : Gap) : search? find (gap.text ++ rest) = search? find rest :=
  search?_pass hfind fun _ hc => Text.toLower_ne_of_isBlank (gap.blank _ hc) (by decide)

theorem search?_otherKeyword {word : String} (keyword : Keyword word) (h : 'f' ∉ word.toList) :
    search? find (keyword.text ++ rest) = search? find rest := by
  refine search?_pass hfind fun c hc hlower => h ?_
  rw [← keyword.lower, ← hlower]
  exact List.mem_map_of_mem hc

theorem search?_keyword (keyword : Keyword "from") :
    search? find (keyword.text ++ rest) =
      (find (keyword.text ++ rest)).or (search? find rest) := by
  obtain ⟨text, hlower⟩ := keyword
  cases text with
  | nil => simp at hlower
  | cons c text =>
    have hletters : "from".toList = ['f', 'r', 'o', 'm'] := by decide
    rw [List.map_cons, hletters] at hlower
    have htail : text.map Char.toLower = ['r', 'o', 'm'] := (List.cons.inj hlower).2
    have hpass : ∀ d ∈ text, d.toLower ≠ 'f' := by
      intro d hd hf
      have hmem := List.mem_map_of_mem hd (f := Char.toLower)
      rw [htail, hf] at hmem
      simp at hmem
    simp only [List.cons_append, search?, search?_pass hfind hpass]

/-- A run without blanks that ends in the keyword is searched from there on. -/
theorem search?_endsInKeyword {lead : List Char} (keyword : Keyword "from")
    (hlead : ∀ c ∈ lead, isBlank c = false) (hrest : LeavesKeyword rest) :
    search? find (lead ++ (keyword.text ++ rest)) =
      (find (keyword.text ++ rest)).or (search? find rest) := by
  rw [search?_skip fun t ht hne => ?_, search?_keyword hfind keyword]
  refine hfind _ ?_
  have hrun : ∀ c ∈ t ++ keyword.text, isBlank c = false := by
    intro c hc
    rcases List.mem_append.mp hc with hc | hc
    · exact hlead c (ht.subset hc)
    · exact (keyword.plain isName_from c hc).1
  have hlonger : (t ++ keyword.text).map Char.toLower ≠ "from".toList := by
    rw [List.map_append, keyword.lower]
    exact fun h => hne (List.map_eq_nil_iff.mp (List.append_left_eq_self.mp h))
  rw [← List.append_assoc, dropKeyword?_run hrun hrest, if_neg hlonger]

/-- A form begins in a run without blanks only where the run ends in the keyword. -/
theorem search?_run {run : List Char} (hrun : ∀ c ∈ run, isBlank c = false)
    (hrest : LeavesKeyword rest)
    (h : ∀ t, t <:+ run → t.map Char.toLower = "from".toList → find (t ++ rest) = none) :
    search? find (run ++ rest) = search? find rest := by
  refine search?_skip fun t ht _ => ?_
  by_cases hword : t.map Char.toLower = "from".toList
  · exact h t ht hword
  · refine hfind _ ?_
    rw [dropKeyword?_run (fun c hc => hrun c (ht.subset hc)) hrest, if_neg hword]

theorem search?_name {n : Name} (hrest : LeavesKeyword rest)
    (h : n.quoted = false → ∀ t, t <:+ n.text → t.map Char.toLower = "from".toList →
      find (t ++ rest) = none) :
    search? find (n.text ++ rest) = search? find rest := by
  refine search?_run hfind n.not_isBlank_text hrest fun t ht hword => ?_
  cases hquoted : n.quoted with
  | false => exact h hquoted t ht hword
  | true =>
    -- the word would end in a double quote
    rw [Name.text_of_quoted hquoted, ← List.cons_append] at ht
    rcases List.suffix_concat_iff.mp ht with rfl | ⟨t, rfl, -⟩
    · simp at hword
    · have hlast := congrArg List.getLast? hword
      simp at hlast

end Searches

end Statement

end ItemStore
