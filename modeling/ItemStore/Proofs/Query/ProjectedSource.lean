import ItemStore.Proofs.Query.SourceText

/-! # The source of a statement that names its columns

The keyword of a source need not be a word of its own. So it is also found at the end of the last
column of a statement `SELECT columns FROM table`, where blanks follow, and the true keyword is taken
for the table. A table in double quotes is found all the same, as none follows the last column.
-/
namespace ItemStore

namespace Text

/-- The blanks beyond ASCII, as ranges of code points. -/
def blankRanges : List (Nat × Nat) := [(0x85, 0x85), (0xA0, 0xA0), (0x1680, 0x1680), (0x2000, 0x200A),
  (0x2028, 0x2029), (0x202F, 0x202F), (0x205F, 0x205F), (0x3000, 0x3000)]

def apart (ranges others : List (Nat × Nat)) : Bool :=
  ranges.all fun r => others.all fun o => r.2.blt o.1 || o.2.blt r.1

theorem inRanges_of_apart {ranges others : List (Nat × Nat)} (h : apart ranges others = true) {c : Char}
    (hc : inRanges others c = true) : inRanges ranges c = false := by
  refine Bool.eq_false_iff.mpr fun hin => ?_
  obtain ⟨r, hr, hrlow, hrhigh⟩ := inRanges_iff.mp hin
  obtain ⟨o, ho, holow, hohigh⟩ := inRanges_iff.mp hc
  have happart := List.all_eq_true.mp (List.all_eq_true.mp h r hr) o ho
  rw [Bool.or_eq_true, Nat.blt_eq, Nat.blt_eq] at happart
  omega

theorem apart_blankRanges : apart alphabeticRanges blankRanges = true ∧
    apart digitRanges blankRanges = true ∧ apart numberRanges blankRanges = true := by decide +kernel

theorem isAlphanumeric_of_isBlank {c : Char} (h : isBlank c = true) : isAlphanumeric c = false := by
  simp only [isBlank, Bool.or_eq_true, Bool.and_eq_true, decide_eq_true_eq, beq_iff_eq] at h
  rw [isAlphanumeric]
  split
  · next hascii =>
    have hspaces : ∀ n ∈ [0x09, 0x0A, 0x0B, 0x0C, 0x0D, 0x20], (Char.ofNat n).isAlphanum = false := by
      decide
    rw [← Char.ofNat_toNat c]
    refine hspaces c.toNat ?_
    simp only [List.mem_cons, List.not_mem_nil]
    omega
  · next hascii =>
    have hblank : inRanges blankRanges c = true := by
      simp only [inRanges, blankRanges, List.any_cons, List.any_nil, Bool.or_eq_true, Bool.and_eq_true,
        decide_eq_true_eq]
      omega
    obtain ⟨halphabetic, hdigit, hnumber⟩ := apart_blankRanges
    rw [isAlphabetic, if_neg hascii, inRanges_of_apart halphabetic hblank,
      inRanges_of_apart hdigit hblank, inRanges_of_apart hnumber hblank]
    rfl

end Text

namespace Statement
open Text (isBlank isAlphanumeric)

structure Identifier where
  text : List Char
  nonempty : text ≠ []
  letters : ∀ c ∈ text, isAlphanumeric c = true ∨ c = '_'

namespace Identifier
variable (p : Identifier)

theorem isPlain : ∀ c ∈ p.text, IsPlain c := by
  intro c hc
  rcases p.letters c hc with hletter | rfl
  · refine ⟨Bool.eq_false_iff.mpr fun hblank => ?_, Bool.eq_false_iff.mpr fun hquote => ?_, ?_⟩
    · rw [Text.isAlphanumeric_of_isBlank hblank] at hletter
      cases hletter
    · rw [isQuote, Bool.or_eq_true, beq_iff_eq, beq_iff_eq] at hquote
      rcases hquote with rfl | rfl
      · exact absurd hletter (by decide)
      · exact absurd hletter (by decide)
    · rintro rfl
      exact absurd hletter (by decide)
  · exact ⟨rfl, rfl, by decide⟩

def toName (quoted : Bool) : Name := ⟨p.text, p.nonempty, p.isPlain, quoted⟩

end Identifier

/-- The last letters of a text are those of the keyword of a source. -/
def EndsInFrom (text : List Char) : Prop := "from".toList <:+ text.map Char.toLower

instance (text : List Char) : Decidable (EndsInFrom text) :=
  inferInstanceAs (Decidable ("from".toList <:+ text.map Char.toLower))

/-- A statement that reads some columns of a table. -/
structure ProjectedSelect where
  selectWord : Keyword "select"
  beforeColumns : Gap
  columns : List Identifier
  /-- What stands between a comma and the next column. -/
  afterComma : List Char
  blank : ∀ c ∈ afterComma, isBlank c = true
  afterColumns : Gap
  fromWord : Keyword "from"
  beforeTable : Gap
  table : Identifier
  quoted : Bool

namespace ProjectedSelect
variable (s : ProjectedSelect)

def columnsText : List Char :=
  (',' :: s.afterComma).intercalate (s.columns.map Identifier.text)

def tableName : Name := s.table.toName s.quoted

@[simp] theorem tableName_name : s.tableName.name = s.table.text := rfl

def clause : List Char := s.fromWord.text ++ (s.beforeTable.text ++ s.tableName.text)

def text : List Char :=
  s.selectWord.text ++ (s.beforeColumns.text ++ (s.columnsText ++ (s.afterColumns.text ++ s.clause)))

def lastText : List Char := (s.columns.getLast?.map Identifier.text).getD []

theorem not_isBlank_lastText : ∀ c ∈ s.lastText, isBlank c = false := by
  intro c hc
  rw [lastText] at hc
  cases hlast : s.columns.getLast? with
  | none => simp [hlast] at hc
  | some p => exact (p.isPlain c (by simpa [hlast] using hc)).1

/-! ### Up to the last column -/

section Searches
variable {α : Type} {find : List Char → Option α} (hfind : BeginsFrom find)
include hfind

theorem search?_column (p : Identifier) (rest : List Char) :
    search? find (p.text ++ (',' :: s.afterComma ++ rest)) = search? find rest := by
  have hcomma : LeavesKeyword (',' :: s.afterComma ++ rest) := by
    intro c hc
    obtain rfl : ',' = c := by simpa using hc
    decide
  have hplain (c : Char) (hc : c ∈ p.text) : isBlank c = false := (p.isPlain c hc).1
  rw [search?_run hfind hplain hcomma fun t ht hword => hfind _ ?_]
  · refine search?_pass hfind fun c hc => ?_
    rcases List.mem_cons.mp hc with rfl | hc
    · decide
    · exact Text.toLower_ne_of_isBlank (s.blank c hc) (by decide)
  · rw [dropKeyword?_run (fun c hc => hplain c (ht.subset hc)) hcomma, if_pos hword]
    rfl

theorem search?_columnsText (rest : List Char) :
    search? find (s.columnsText ++ rest) = search? find (s.lastText ++ rest) := by
  rw [columnsText, lastText]
  induction s.columns with
  | nil => rfl
  | cons p columns ih =>
    cases columns with
    | nil => rw [List.map_singleton, List.intercalate_singleton]; rfl
    | cons q columns =>
      rw [List.getLast?_cons_cons, ← ih, List.map_cons, List.map_cons, List.intercalate_cons_cons,
        List.append_assoc, List.append_assoc, s.search?_column hfind p, ← List.map_cons]

/-- The table is the last word, so that only the keyword before it counts. -/
theorem search?_clause : search? find (s.afterColumns.text ++ s.clause) = find s.clause := by
  have hend : search? find s.tableName.text = none := by
    rw [search?_eq_none_iff]
    intro t ht
    exact hfind t (dropKeyword?_end fun c hc => s.tableName.not_isBlank_text c (ht.subset hc))
  rw [search?_gap hfind, clause, search?_keyword hfind, search?_gap hfind, hend, Option.or_none]

theorem search?_text :
    search? find s.text = search? find (s.lastText ++ (s.afterColumns.text ++ s.clause)) := by
  rw [text, search?_otherKeyword hfind s.selectWord (by decide), search?_gap hfind,
    s.search?_columnsText hfind]

theorem search?_text_of_not_endsInFrom (h : ¬ EndsInFrom s.lastText) :
    search? find s.text = find s.clause := by
  rw [s.search?_text hfind, search?_run hfind s.not_isBlank_lastText (s.afterColumns.leavesKeyword _),
    s.search?_clause hfind]
  intro t ht hword
  refine absurd ?_ h
  rw [EndsInFrom, ← hword]
  exact ht.map Char.toLower

theorem search?_text_of_endsInFrom (h : EndsInFrom s.lastText) :
    ∃ keyword : Keyword "from", search? find s.text =
      (find (keyword.text ++ (s.afterColumns.text ++ s.clause))).or (find s.clause) := by
  obtain ⟨lead, hlead⟩ := h
  obtain ⟨first, last, htext, -, hlast⟩ := List.map_eq_append_iff.mp hlead.symm
  refine ⟨⟨last, hlast⟩, ?_⟩
  have hplain : ∀ c ∈ first, isBlank c = false := fun c hc =>
    s.not_isBlank_lastText c (htext ▸ List.mem_append_left last hc)
  rw [s.search?_text hfind, htext, List.append_assoc,
    search?_endsInKeyword hfind ⟨last, hlast⟩ hplain (s.afterColumns.leavesKeyword _),
    s.search?_clause hfind]

end Searches

/-! ### At the keyword -/

theorem dropKeyword?_clause : dropKeyword? "from" s.clause = some s.tableName.text := by
  have h := dropKeyword?_keyword s.fromWord s.beforeTable (s.tableName.head_text_append [])
  rwa [List.append_nil] at h

theorem quoted_clause : quotedIndexed? s.clause = none ∧
    quotedTable? s.clause =
      if s.quoted then some ⟨String.ofList s.table.text, none⟩ else none := by
  rw [quotedIndexed?, quotedTable?, dropKeyword?_clause]
  cases hquoted : s.quoted with
  | true =>
    have hname : takeQuoted? (s.tableName.text ++ []) = some (String.ofList s.table.text, []) :=
      takeQuoted?_name hquoted
    rw [List.append_nil] at hname
    simp [hname, dropBlanks?]
  | false =>
    have hname : takeQuoted? (s.tableName.text ++ []) = none := takeQuoted?_bare hquoted
    rw [List.append_nil] at hname
    simp [hname]

theorem bare_clause (h : s.quoted = false) : bareIndexed? s.clause = none ∧
    bareTable? s.clause = some ⟨String.ofList s.table.text, none⟩ := by
  obtain ⟨hindexed, htable⟩ :=
    takeRun?_bare (n := s.tableName) h fun c (hc : c ∈ ([] : List Char).head?) => by cases hc
  have hunquoted := unquoted_name s.tableName
  rw [List.append_nil, tableName_name] at hindexed htable
  rw [tableName_name] at hunquoted
  simp [bareIndexed?, bareTable?, dropKeyword?_clause, hindexed, htable, dropBlanks?, hunquoted]

/-! ### At the end of the last column -/

section LastColumn
variable (keyword : Keyword "from")

theorem dropKeyword?_lastText :
    dropKeyword? "from" (keyword.text ++ (s.afterColumns.text ++ s.clause)) = some s.clause :=
  dropKeyword?_keyword keyword s.afterColumns (s.fromWord.head_append isName_from _)

theorem quoted_lastText :
    quotedIndexed? (keyword.text ++ (s.afterColumns.text ++ s.clause)) = none ∧
      quotedTable? (keyword.text ++ (s.afterColumns.text ++ s.clause)) = none := by
  refine quoted_eq_none fun rest h => ?_
  rw [dropKeyword?_lastText] at h
  obtain rfl := Option.some.inj h
  exact s.fromWord.head_append_ne_mark isName_from _

/-- The keyword is read as a bare name, and the table is no keyword of an index, as nothing follows. -/
theorem bare_lastText :
    bareIndexed? (keyword.text ++ (s.afterColumns.text ++ s.clause)) = none ∧
      bareTable? (keyword.text ++ (s.afterColumns.text ++ s.clause)) =
        some ⟨String.ofList s.fromWord.text, none⟩ := by
  obtain ⟨hindexed, htable⟩ := takeRun?_keyword s.fromWord isName_from
    (s.beforeTable.head_append s.tableName.text)
  rw [← clause] at hindexed htable
  have hblanks : dropBlanks? (s.beforeTable.text ++ s.tableName.text) = some s.tableName.text := by
    have h := dropBlanks?_gap s.beforeTable (s.tableName.head_text_append [])
    rwa [List.append_nil] at h
  have hkeyword : dropKeyword? "index" s.tableName.text = none :=
    dropKeyword?_end s.tableName.not_isBlank_text
  have hunquoted := unquoted_keyword s.fromWord isName_from
  simp [bareIndexed?, bareTable?, dropKeyword?_lastText, hindexed, htable, hblanks, hkeyword, hunquoted]

end LastColumn

/-! ### The whole statement -/

theorem search?_quoted_text : search? quotedIndexed? s.text = none ∧
    search? quotedTable? s.text =
      if s.quoted then some ⟨String.ofList s.table.text, none⟩ else none := by
  obtain ⟨hindexed, htable⟩ := s.quoted_clause
  by_cases hend : EndsInFrom s.lastText
  · obtain ⟨keyword, hfirst⟩ := s.search?_text_of_endsInFrom beginsFrom_quotedIndexed hend
    obtain ⟨keyword', hfirst'⟩ := s.search?_text_of_endsInFrom beginsFrom_quotedTable hend
    rw [hfirst, hfirst', (s.quoted_lastText keyword).1, (s.quoted_lastText keyword').2, Option.none_or,
      Option.none_or]
    exact ⟨hindexed, htable⟩
  · rw [s.search?_text_of_not_endsInFrom beginsFrom_quotedIndexed hend,
      s.search?_text_of_not_endsInFrom beginsFrom_quotedTable hend]
    exact ⟨hindexed, htable⟩

def bareText : List Char := if EndsInFrom s.lastText then s.fromWord.text else s.table.text

theorem search?_bare_text (h : s.quoted = false) : search? bareIndexed? s.text = none ∧
    search? bareTable? s.text = some ⟨String.ofList s.bareText, none⟩ := by
  obtain ⟨hindexed, htable⟩ := s.bare_clause h
  rw [bareText]
  by_cases hend : EndsInFrom s.lastText
  · obtain ⟨keyword, hfirst⟩ := s.search?_text_of_endsInFrom beginsFrom_bareIndexed hend
    obtain ⟨keyword', hfirst'⟩ := s.search?_text_of_endsInFrom beginsFrom_bareTable hend
    rw [hfirst, hfirst', (s.bare_lastText keyword).1, (s.bare_lastText keyword').2, Option.none_or,
      Option.some_or, if_pos hend]
    exact ⟨hindexed, rfl⟩
  · rw [s.search?_text_of_not_endsInFrom beginsFrom_bareIndexed hend,
      s.search?_text_of_not_endsInFrom beginsFrom_bareTable hend, if_neg hend]
    exact ⟨hindexed, htable⟩

theorem bareText_ne_nil : s.bareText ≠ [] := by
  rw [bareText]
  split
  · exact s.fromWord.ne_nil isName_from
  · exact s.table.nonempty

/-- The table that is found. A bare one is misread if the last column ends in the keyword. -/
def found : List Char := if s.quoted then s.table.text else s.bareText

end ProjectedSelect

/-- The columns of a statement have no influence on the table that is found, unless it is bare and the
last of them ends in the letters of the keyword: then the keyword is taken for the table. -/
theorem source?_projectedSelect (s : ProjectedSelect) :
    source? (String.ofList s.text) = some ⟨String.ofList s.found, none⟩ := by
  obtain ⟨hindexed, htable⟩ := s.search?_quoted_text
  rw [source?, String.toList_ofList, hindexed, htable, ProjectedSelect.found]
  cases hquoted : s.quoted with
  | true => simp
  | false =>
    obtain ⟨hbareIndexed, hbareTable⟩ := s.search?_bare_text hquoted
    simp [hbareIndexed, hbareTable, s.bareText_ne_nil]

/-- A column that ends in the letters of the keyword hides the table. -/
theorem source?_reads_end_of_column :
    ∃ s : ProjectedSelect, String.ofList s.text = "SELECT validfrom FROM orders" ∧
      (∀ p ∈ s.columns, p.text.map Char.toLower ≠ "from".toList) ∧
      String.ofList s.table.text = "orders" ∧
      source? (String.ofList s.text) = some ⟨"FROM", none⟩ := by
  refine ⟨{ selectWord := ⟨"SELECT".toList, by decide⟩, beforeColumns := .space
            columns := [⟨"validfrom".toList, by simp, by simp [isAlphanumeric]⟩]
            afterComma := [], blank := by simp, afterColumns := .space
            fromWord := ⟨"FROM".toList, by decide⟩, beforeTable := .space
            table := ⟨"orders".toList, by simp, by simp [isAlphanumeric]⟩, quoted := false }, ?_⟩
  decide

end Statement

end ItemStore
