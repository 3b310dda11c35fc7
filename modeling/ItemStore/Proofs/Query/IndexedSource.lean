import ItemStore.Proofs.Query.SourceText

/-! # The source of a statement that names an index

A statement `SELECT * FROM table INDEX index` is read as one with both names in double quotes, or with
none. So the index is found if both names are spelled alike, but a bare index takes in a semicolon
that follows it at once. The table is found in any case.
-/
namespace ItemStore.Statement
open Text (isBlank dropWord?)

inductive Ending
  /-- Blanks, and a semicolon or none. -/
  | plain (blanks : List Char) (blank : ∀ c ∈ blanks, isBlank c = true) (terminated : Bool)
  /-- A condition that has no keyword of a source in it. -/
  | filtered (gap : Gap) (whereWord : Keyword "where") (condition : List Char)
    (noSource : ∀ t, t <:+ condition → dropWord? "from" t = none)

namespace Ending
variable (e : Ending)

def text : Ending → List Char
  | plain blanks _ terminated => blanks ++ if terminated then [';'] else []
  | filtered gap whereWord condition _ => gap.text ++ (whereWord.text ++ condition)

/-- The semicolon that follows the names without a blank. -/
def attached : List Char := if e.text.head? = some ';' then [';'] else []

theorem eq_of_mem_attached {c : Char} (h : c ∈ e.attached) : c = ';' := by
  rw [attached] at h
  split at h
  · exact List.mem_singleton.mp h
  · cases h

theorem head_text : ∀ c ∈ e.text.head?, isBlank c = true ∨ c = ';' := by
  cases e with
  | plain blanks blank terminated =>
    cases blanks with
    | nil => cases terminated <;> simp [text]
    | cons b blanks => simpa [text] using Or.inl (blank b List.mem_cons_self)
  | filtered gap whereWord condition noSource =>
    obtain ⟨b, blanks, hgap⟩ := List.exists_cons_of_ne_nil gap.nonempty
    simpa [text, hgap] using Or.inl (gap.blank b (hgap ▸ List.mem_cons_self))

theorem leavesKeyword : LeavesKeyword e.text := by
  intro c hc hmem
  rcases e.head_text c hc with hblank | rfl
  · exact Text.toLower_ne_of_isBlank hblank (isName_from.plain _ hmem).1 rfl
  · exact absurd hmem (by decide)

theorem not_quoted {rest : List Char} (h : dropBlanks? e.text = some rest) :
    rest.head? ≠ some '"' := by
  cases e with
  | plain blanks blank terminated =>
    intro hhead
    have hmem : '"' ∈ (plain blanks blank terminated).text :=
      (dropBlanks?_suffix h).subset (List.mem_of_mem_head? hhead)
    rw [text, List.mem_append] at hmem
    rcases hmem with hmem | hmem
    · exact absurd (blank _ hmem) (by decide)
    · cases terminated <;> simp at hmem
  | filtered gap whereWord condition noSource =>
    rw [text, dropBlanks?_gap gap (whereWord.head_append isName_where _)] at h
    obtain rfl := Option.some.inj h
    exact whereWord.head_append_ne_mark isName_where condition

theorem search?_text {α : Type} {find : List Char → Option α} (hfind : BeginsFrom find) :
    search? find e.text = none := by
  cases e with
  | plain blanks blank terminated =>
    rw [text, search?_pass hfind fun c hc => Text.toLower_ne_of_isBlank (blank c hc) (by decide)]
    rw [search?_eq_none_iff]
    intro t ht
    cases t with
    | nil => exact hfind [] rfl
    | cons c t =>
      have hc : c ∈ if terminated then [';'] else [] := ht.subset List.mem_cons_self
      obtain rfl : c = ';' := by cases terminated <;> simp at hc; exact hc
      exact hfind.of_head (by decide)
  | filtered gap whereWord condition noSource =>
    rw [text, search?_gap hfind, search?_otherKeyword hfind whereWord (by decide),
      search?_eq_none_iff]
    intro t ht
    refine hfind t ?_
    rw [dropKeyword?, noSource t ht]
    rfl

/-- Only a semicolon that is attached goes on with the word before. -/
theorem exists_text_eq : ∃ later, e.text = e.attached ++ later ∧ ∀ c ∈ later.head?, isBlank c = true := by
  by_cases hhead : e.text.head? = some ';'
  · refine ⟨[], ?_, by simp⟩
    rw [attached, if_pos hhead, List.append_nil]
    cases e with
    | plain blanks blank terminated =>
      cases blanks with
      | nil => cases terminated <;> simp_all [text]
      | cons b blanks =>
        obtain rfl : b = ';' := by simpa [text] using hhead
        exact absurd (blank _ List.mem_cons_self) (by decide)
    | filtered gap whereWord condition noSource =>
      obtain ⟨b, blanks, hgap⟩ := List.exists_cons_of_ne_nil gap.nonempty
      obtain rfl : b = ';' := by simpa [text, hgap] using hhead
      exact absurd (gap.blank _ (hgap ▸ List.mem_cons_self)) (by decide)
  · refine ⟨e.text, by rw [attached, if_neg hhead, List.nil_append], fun c hc => ?_⟩
    refine (e.head_text c hc).resolve_right ?_
    rintro rfl
    exact hhead hc

end Ending

/-- A statement that reads all of a table through an index. -/
structure IndexedSelect where
  selectWord : Keyword "select"
  beforeStar : Gap
  afterStar : Gap
  fromWord : Keyword "from"
  beforeTable : Gap
  table : Name
  afterTable : Gap
  indexWord : Keyword "index"
  beforeIndex : Gap
  index : Name
  ending : Ending

namespace IndexedSelect
variable (s : IndexedSelect)

def indexText : List Char := s.index.text ++ s.ending.text

def indexClause : List Char := s.indexWord.text ++ (s.beforeIndex.text ++ s.indexText)

def tableText : List Char := s.table.text ++ (s.afterTable.text ++ s.indexClause)

def clause : List Char := s.fromWord.text ++ (s.beforeTable.text ++ s.tableText)

def text : List Char :=
  s.selectWord.text ++ (s.beforeStar.text ++ (['*'] ++ (s.afterStar.text ++ s.clause)))

def bareIndex : List Char := s.index.name ++ s.ending.attached

def index? : Option String :=
  match s.table.quoted, s.index.quoted with
  | true, true => some (String.ofList s.index.name)
  | false, false => some (String.ofList s.bareIndex)
  | _, _ => none

/-! ### Up to the table -/

theorem search?_text {α : Type} {find : List Char → Option α} (hfind : BeginsFrom find) :
    search? find s.text = (find s.clause).or (search? find s.tableText) := by
  have hstar : ∀ c ∈ ['*'], c.toLower ≠ 'f' := by simp
  rw [text, search?_otherKeyword hfind s.selectWord (by decide), search?_gap hfind,
    search?_pass hfind hstar, search?_gap hfind, clause, search?_keyword hfind, search?_gap hfind]

theorem dropKeyword?_clause : dropKeyword? "from" s.clause = some s.tableText :=
  dropKeyword?_keyword s.fromWord s.beforeTable (s.table.head_text_append _)

/-! ### After the table -/

theorem dropBlanks?_indexClause :
    dropBlanks? (s.afterTable.text ++ s.indexClause) = some s.indexClause :=
  dropBlanks?_gap s.afterTable (s.indexWord.head_append isName_index _)

theorem dropKeyword?_indexClause : dropKeyword? "index" s.indexClause = some s.indexText :=
  dropKeyword?_keyword s.indexWord s.beforeIndex (s.index.head_text_append _)

/-- Where a table ends in the keyword of a source, the keyword of the index follows. -/
theorem dropKeyword?_endOfTable {t : List Char} (ht : t <:+ s.table.text)
    (hword : t.map Char.toLower = "from".toList) :
    dropKeyword? "from" (t ++ (s.afterTable.text ++ s.indexClause)) = some s.indexClause := by
  rw [dropKeyword?_run (fun c hc => s.table.not_isBlank_text c (ht.subset hc))
    (s.afterTable.leavesKeyword _), if_pos hword, dropBlanks?_indexClause]

theorem search?_tableText {α : Type} {find : List Char → Option α} (hfind : BeginsFrom find)
    (htable : ∀ t, dropKeyword? "from" t = some s.indexClause → find t = none)
    (hindex : s.index.quoted = false → ∀ t rest, dropKeyword? "from" t = some rest →
      rest.head? ≠ some '"' → find t = none) :
    search? find s.tableText = none := by
  rw [tableText, search?_name hfind (s.afterTable.leavesKeyword _)
    fun _ t ht hword => htable _ (s.dropKeyword?_endOfTable ht hword)]
  rw [search?_gap hfind, indexClause, search?_otherKeyword hfind s.indexWord (by decide),
    search?_gap hfind, indexText, search?_name hfind s.ending.leavesKeyword ?_]
  · exact s.ending.search?_text hfind
  · intro hquoted t ht hword
    have hnamed : dropKeyword? "from" (t ++ s.ending.text) = dropBlanks? s.ending.text := by
      rw [dropKeyword?_run (fun c hc => s.index.not_isBlank_text c (ht.subset hc))
        s.ending.leavesKeyword, if_pos hword]
    cases hrest : dropBlanks? s.ending.text with
    | none => exact hfind _ (hnamed.trans hrest)
    | some rest => exact hindex hquoted _ rest (hnamed.trans hrest) (s.ending.not_quoted hrest)

theorem search?_quoted_tableText :
    search? quotedIndexed? s.tableText = none ∧ search? quotedTable? s.tableText = none := by
  have hclause : s.indexClause.head? ≠ some '"' :=
    s.indexWord.head_append_ne_mark isName_index _
  have hnone {t rest : List Char} (h : dropKeyword? "from" t = some rest)
      (hrest : rest.head? ≠ some '"') : quotedIndexed? t = none ∧ quotedTable? t = none := by
    refine quoted_eq_none fun rest' h' => ?_
    rw [h] at h'
    rwa [← Option.some.inj h']
  exact ⟨s.search?_tableText beginsFrom_quotedIndexed (fun _ h => (hnone h hclause).1)
      fun _ _ _ h hrest => (hnone h hrest).1,
    s.search?_tableText beginsFrom_quotedTable (fun _ h => (hnone h hclause).2)
      fun _ _ _ h hrest => (hnone h hrest).2⟩

theorem search?_bareIndexed_tableText (h : s.index.quoted = true) :
    search? bareIndexed? s.tableText = none := by
  refine s.search?_tableText beginsFrom_bareIndexed (fun t ht => ?_) fun hbare => ?_
  · -- the keyword of the index would be the table, and the index in double quotes its keyword
    have htable : takeRun? (fun c => !isBlank c && c != '"') s.indexClause =
        some (s.indexWord.text, s.beforeIndex.text ++ s.indexText) :=
      (takeRun?_keyword s.indexWord isName_index (s.beforeIndex.head_append _)).1
    have hblanks : dropBlanks? (s.beforeIndex.text ++ s.indexText) = some s.indexText :=
      dropBlanks?_gap s.beforeIndex (s.index.head_text_append _)
    have hkeyword : dropKeyword? "index" s.indexText = none := by
      rw [indexText, Name.text_of_quoted h]
      rfl
    simp [bareIndexed?, ht, htable, hblanks, hkeyword]
  · rw [h] at hbare
    cases hbare

/-! ### At the table -/

theorem quotedIndexed?_clause :
    quotedIndexed? s.clause =
      if s.table.quoted && s.index.quoted then
        some ⟨String.ofList s.table.name, some (String.ofList s.index.name)⟩
      else none := by
  rw [quotedIndexed?, dropKeyword?_clause, tableText]
  cases htable : s.table.quoted with
  | false => simp [takeQuoted?_bare htable]
  | true =>
    simp only [Option.bind_eq_bind, Option.bind_some, takeQuoted?_name htable,
      dropBlanks?_indexClause, dropKeyword?_indexClause, indexText]
    cases hindex : s.index.quoted with
    | false => simp [takeQuoted?_bare hindex]
    | true => simp [takeQuoted?_name hindex]

theorem quotedTable?_clause :
    quotedTable? s.clause =
      if s.table.quoted then some ⟨String.ofList s.table.name, none⟩ else none := by
  rw [quotedTable?, dropKeyword?_clause, tableText]
  cases htable : s.table.quoted with
  | false => simp [takeQuoted?_bare htable]
  | true => simp [takeQuoted?_name htable]

theorem of_mem_bareIndex {c : Char} (h : c ∈ s.bareIndex) : isBlank c = false ∧ isQuote c = false := by
  rcases List.mem_append.mp h with hc | hc
  · exact ⟨(s.index.plain c hc).1, (s.index.plain c hc).2.1⟩
  · obtain rfl := s.ending.eq_of_mem_attached hc
    decide

/-- A bare index goes on to the next blank, so that an attached semicolon belongs to it. -/
theorem takeRun?_indexText (h : s.index.quoted = false) :
    ∃ later, takeRun? (fun c => !isBlank c && c != '"') s.indexText = some (s.bareIndex, later) := by
  obtain ⟨later, hlater, hblank⟩ := s.ending.exists_text_eq
  refine ⟨later, ?_⟩
  rw [indexText, Name.text_of_bare h, hlater, ← List.append_assoc, ← bareIndex]
  refine takeRun?_run (by simp [bareIndex, s.index.nonempty]) (fun c hc => ?_) fun c hc => ?_
  · obtain ⟨hplain, hquote⟩ := s.of_mem_bareIndex hc
    have hmark : c ≠ '"' := by
      rintro rfl
      exact absurd hquote (by decide)
    simp [hplain, hmark]
  · simp [hblank c hc]

theorem bareIndexed?_clause (htable : s.table.quoted = false) :
    bareIndexed? s.clause =
      if s.index.quoted then none
      else some ⟨String.ofList s.table.name, some (String.ofList s.bareIndex)⟩ := by
  have hname := (takeRun?_bare htable (s.afterTable.head_append s.indexClause)).1
  cases hindex : s.index.quoted with
  | true =>
    have hnone : takeRun? (fun c => !isBlank c && c != '"') s.indexText = none :=
      takeRun?_quoted (by decide) hindex
    simp [bareIndexed?, dropKeyword?_clause, tableText, hname, dropBlanks?_indexClause,
      dropKeyword?_indexClause, hnone]
  | false =>
    obtain ⟨later, hlater⟩ := s.takeRun?_indexText hindex
    have hunquoted : unquoted s.bareIndex = String.ofList s.bareIndex :=
      unquoted_of_not_isQuote fun c hc => (s.of_mem_bareIndex hc).2
    simp [bareIndexed?, dropKeyword?_clause, tableText, hname, dropBlanks?_indexClause,
      dropKeyword?_indexClause, hlater, unquoted_name, hunquoted]

theorem bareTable?_clause (htable : s.table.quoted = false) :
    bareTable? s.clause = some ⟨String.ofList s.table.name, none⟩ := by
  have hname := (takeRun?_bare htable (s.afterTable.head_append s.indexClause)).2
  simp [bareTable?, dropKeyword?_clause, tableText, hname, unquoted_name]

end IndexedSelect

/-- The table of a statement that names an index is found however the names are spelled. The index
is found where both are in double quotes or both are bare, and a bare one takes in the semicolon that
is attached to it. -/
theorem source?_indexedSelect (s : IndexedSelect) :
    source? (String.ofList s.text) = some ⟨String.ofList s.table.name, s.index?⟩ := by
  obtain ⟨hindexed, htable⟩ := s.search?_quoted_tableText
  rw [source?, String.toList_ofList, s.search?_text beginsFrom_quotedIndexed,
    s.search?_text beginsFrom_quotedTable, s.search?_text beginsFrom_bareIndexed,
    s.search?_text beginsFrom_bareTable, hindexed, htable, s.quotedIndexed?_clause,
    s.quotedTable?_clause, IndexedSelect.index?]
  cases htable : s.table.quoted with
  | true => cases s.index.quoted <;> simp
  | false =>
    rw [s.bareIndexed?_clause htable, s.bareTable?_clause htable]
    cases hindex : s.index.quoted with
    | true => simp [s.search?_bareIndexed_tableText hindex, s.table.nonempty]
    | false => simp

/-- The statement in upper case, with single blanks. -/
def IndexedSelect.ofNames (table index : Name) (ending : Ending) : IndexedSelect where
  selectWord := ⟨"SELECT".toList, by decide⟩
  beforeStar := .space
  afterStar := .space
  fromWord := ⟨"FROM".toList, by decide⟩
  beforeTable := .space
  table
  afterTable := .space
  indexWord := ⟨"INDEX".toList, by decide⟩
  beforeIndex := .space
  index
  ending

/-- The index is lost between a table in double quotes and a bare index, and a semicolon becomes
part of a bare index. -/
theorem source?_loses_index :
    (∃ s : IndexedSelect, String.ofList s.text = "SELECT * FROM \"t\" INDEX i" ∧
      s.table.name = ['t'] ∧ s.index.name = ['i'] ∧
      source? (String.ofList s.text) = some ⟨"t", none⟩) ∧
    ∃ s : IndexedSelect, String.ofList s.text = "SELECT * FROM t INDEX i;" ∧
      s.table.name = ['t'] ∧ s.index.name = ['i'] ∧
      source? (String.ofList s.text) = some ⟨"t", some "i;"⟩ := by
  refine ⟨⟨.ofNames ⟨['t'], by simp, by simp [IsPlain, isBlank, isQuote], true⟩
      ⟨['i'], by simp, by simp [IsPlain, isBlank, isQuote], false⟩ (.plain [] (by simp) false), ?_⟩,
    ⟨.ofNames ⟨['t'], by simp, by simp [IsPlain, isBlank, isQuote], false⟩
      ⟨['i'], by simp, by simp [IsPlain, isBlank, isQuote], false⟩ (.plain [] (by simp) true), ?_⟩⟩
  · decide
  · decide

end ItemStore.Statement
