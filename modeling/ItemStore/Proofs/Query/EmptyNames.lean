import ItemStore.Proofs.Query.KeyComparison
import ItemStore.Proofs.Query.OrderPlan
import ItemStore.Proofs.Query.SourceText
import Mathlib.Data.List.TakeWhile

/-! # Names that are empty

A name in double quotes has at least one character. A bare one is read up to the next blank and loses
the quotes at its ends, so that nothing is left of a name that is all single quotes. An empty table is
refused where no index is named with it; where one is, neither name is looked at. So an empty name is
found exactly where the first clause `FROM table INDEX index` of a statement without a table in double
quotes has single quotes for a name.
-/
namespace ItemStore

namespace Statement
open Text (isBlank trimStart dropWord?)

/-! ### What the readers take -/

section Readers
variable {text rest : List Char}

theorem dropBlanks?_eq_some_iff :
    dropBlanks? text = some rest ↔
      ∃ gap : Gap, text = gap.text ++ rest ∧ ∀ c ∈ rest.head?, isBlank c = false := by
  constructor
  · intro h
    cases text with
    | nil => cases h
    | cons c text =>
      rw [dropBlanks?, Option.ite_none_right_eq_some] at h
      obtain ⟨hc, hrest⟩ := h
      obtain rfl := Option.some.inj hrest
      obtain ⟨lead, htext, hlead⟩ := Text.trimStart_ends text
      refine ⟨⟨c :: lead, List.cons_ne_nil _ _, List.forall_mem_cons.mpr ⟨hc, hlead⟩⟩, ?_,
        Text.trimStart_head text⟩
      rw [List.cons_append, ← htext]
  · rintro ⟨gap, rfl, hrest⟩
    exact dropBlanks?_gap gap hrest

theorem dropWord?_eq_some_iff {word : String} :
    dropWord? word text = some rest ↔ ∃ keyword : Keyword word, text = keyword.text ++ rest := by
  constructor
  · intro h
    obtain ⟨left, hletters, rfl⟩ := Option.map_eq_some_iff.mp h
    have hword := Text.eq_append_of_dropStart? hletters
    have hleft : left = [] := by
      have hlength := congrArg List.length hword
      rw [List.length_map, List.length_append, String.length_toList] at hlength
      exact List.length_eq_zero_iff.mp (by have := List.length_take_le word.length text; omega)
    rw [hleft, List.append_nil] at hword
    exact ⟨⟨text.take word.length, hword⟩, (List.take_append_drop _ _).symm⟩
  · rintro ⟨keyword, rfl⟩
    exact dropWord?_keyword keyword

theorem dropKeyword?_eq_some_iff {word : String} :
    dropKeyword? word text = some rest ↔ ∃ (keyword : Keyword word) (gap : Gap),
      text = keyword.text ++ (gap.text ++ rest) ∧ ∀ c ∈ rest.head?, isBlank c = false := by
  simp only [dropKeyword?, Option.bind_eq_some_iff, dropWord?_eq_some_iff, dropBlanks?_eq_some_iff]
  constructor
  · rintro ⟨_, ⟨keyword, rfl⟩, gap, rfl, hrest⟩
    exact ⟨keyword, gap, rfl, hrest⟩
  · rintro ⟨keyword, gap, rfl, hrest⟩
    exact ⟨_, ⟨keyword, rfl⟩, gap, rfl, hrest⟩

theorem takeRun?_eq_some_iff {accepts : Char → Bool} {run : List Char} :
    takeRun? accepts text = some (run, rest) ↔ text = run ++ rest ∧ run ≠ [] ∧
      (∀ c ∈ run, accepts c = true) ∧ ∀ c ∈ rest.head?, accepts c = false := by
  constructor
  · intro h
    simp only [takeRun?, Option.ite_none_left_eq_some, List.isEmpty_iff] at h
    obtain ⟨hne, h⟩ := h
    obtain ⟨rfl, rfl⟩ := Prod.mk.inj (Option.some.inj h)
    refine ⟨List.takeWhile_append_dropWhile.symm, hne, List.all_eq_true.mp List.all_takeWhile, ?_⟩
    intro c hc
    have hnot := List.head?_dropWhile_not accepts text
    rw [Option.mem_def.mp hc] at hnot
    simpa using hnot
  · rintro ⟨rfl, hne, hrun, hrest⟩
    exact takeRun?_run hne hrun hrest

theorem takeQuoted?_eq_some_iff {name : String} :
    takeQuoted? text = some (name, rest) ↔ ∃ inner, text = '"' :: (inner ++ '"' :: rest) ∧
      inner ≠ [] ∧ (∀ c ∈ inner, c ≠ '"') ∧ name = String.ofList inner := by
  simp only [takeQuoted?, Option.bind_eq_bind, Option.bind_eq_some_iff, Prod.exists,
    Text.dropStart?_eq_some_iff, takeRun?_eq_some_iff, bne_iff_ne, Option.some.injEq, Prod.mk.injEq]
  constructor
  · rintro ⟨_, rfl, inner, _, ⟨rfl, hne, hinner, -⟩, _, rfl, rfl, rfl⟩
    exact ⟨inner, rfl, hne, hinner, rfl⟩
  · rintro ⟨inner, rfl, hne, hinner, rfl⟩
    exact ⟨_, rfl, inner, _, ⟨rfl, hne, hinner, by simp⟩, _, rfl, rfl, rfl⟩

theorem unquoted_eq_empty_iff {name : List Char} :
    unquoted name = "" ↔ ∀ c ∈ name, isQuote c = true := by
  rw [unquoted, String.ofList_eq_empty_iff, List.reverse_eq_nil_iff, List.dropWhile_eq_nil_iff]
  simp only [List.mem_reverse]
  constructor
  · intro h
    -- what is left at the start begins with no quote, but it is all quotes
    refine List.dropWhile_eq_nil_iff.mp ?_
    cases hrest : name.dropWhile isQuote with
    | nil => rfl
    | cons c rest =>
      have hhead := List.head?_dropWhile_not isQuote name
      rw [hrest] at h hhead
      exact absurd (h c List.mem_cons_self) (by simpa using hhead)
  · exact fun h c hc => h c ((List.dropWhile_suffix _).subset hc)

/-- A search finds what begins first: nothing is found before it. -/
theorem search?_eq_some_iff {α : Type} {find : List Char → Option α} {found : α} :
    search? find text = some found ↔ ∃ rest, rest <:+ text ∧ find rest = some found ∧
      ∀ t, t <:+ text → find t ≠ none → t <:+ rest := by
  induction text with
  | nil => simp [search?]
  | cons c text ih =>
    rw [search?, Option.or_eq_some_iff, ih]
    constructor
    · rintro (hhere | ⟨hhere, rest, hrest, hfound, hfirst⟩)
      · exact ⟨c :: text, List.suffix_rfl, hhere, fun t ht _ => ht⟩
      · refine ⟨rest, hrest.trans (List.suffix_cons c text), hfound, fun t ht hne => ?_⟩
        rcases List.suffix_cons_iff.mp ht with rfl | ht
        · exact absurd hhere hne
        · exact hfirst t ht hne
    · rintro ⟨rest, hrest, hfound, hfirst⟩
      rcases List.suffix_cons_iff.mp hrest with rfl | hrest
      · exact .inl hfound
      · refine .inr ⟨?_, rest, hrest, hfound,
          fun t ht hne => hfirst t (ht.trans (List.suffix_cons c text)) hne⟩
        by_contra hne
        have hlength := ((hfirst _ List.suffix_rfl hne).trans hrest).length_le
        exact Nat.not_succ_le_self _ hlength

end Readers

/-! ### The clause that is read -/

/-- What a bare name is read from: characters that are neither blanks nor double quotes. -/
structure BareRun where
  text : List Char
  nonempty : text ≠ []
  bare : ∀ c ∈ text, isBlank c = false ∧ c ≠ '"'

namespace BareRun
variable (run : BareRun)

def AllQuotes : Prop := ∀ c ∈ run.text, c = '\''

theorem unquoted_eq_empty_iff : unquoted run.text = "" ↔ run.AllQuotes := by
  rw [Statement.unquoted_eq_empty_iff, AllQuotes]
  refine forall₂_congr fun c hc => ?_
  simp [isQuote, (run.bare c hc).2]

theorem head_append (rest : List Char) : ∀ c ∈ (run.text ++ rest).head?, isBlank c = false := by
  rw [List.head?_append_of_ne_nil run.text run.nonempty]
  exact fun c hc => (run.bare c (List.mem_of_mem_head? hc)).1

theorem takeRun?_eq_some_iff {text run rest : List Char} :
    takeRun? (fun c => !isBlank c && c != '"') text = some (run, rest) ↔
      ∃ name : BareRun, run = name.text ∧ text = name.text ++ rest ∧
        ∀ c ∈ rest.head?, isBlank c = true ∨ c = '"' := by
  have hends (c : Char) : (!isBlank c && c != '"') = false ↔ isBlank c = true ∨ c = '"' := by
    cases isBlank c <;> simp
  simp only [Statement.takeRun?_eq_some_iff, hends, Bool.and_eq_true, Bool.not_eq_true', bne_iff_ne]
  constructor
  · rintro ⟨rfl, hne, hbare, hrest⟩
    exact ⟨⟨run, hne, hbare⟩, rfl, rfl, hrest⟩
  · rintro ⟨name, rfl, rfl, hrest⟩
    exact ⟨rfl, name.nonempty, name.bare, hrest⟩

end BareRun

/-- The clause `FROM table INDEX index` without double quotes, and all that follows it. -/
structure BareClause where
  fromWord : Keyword "from"
  beforeTable : Gap
  table : BareRun
  afterTable : Gap
  indexWord : Keyword "index"
  beforeIndex : Gap
  index : BareRun
  later : List Char
  ended : ∀ c ∈ later.head?, isBlank c = true ∨ c = '"'

namespace BareClause
variable (clause : BareClause)

def text : List Char :=
  clause.fromWord.text ++ (clause.beforeTable.text ++ (clause.table.text ++ (clause.afterTable.text ++
    (clause.indexWord.text ++ (clause.beforeIndex.text ++ (clause.index.text ++ clause.later))))))

def source : Source := ⟨unquoted clause.table.text, some (unquoted clause.index.text)⟩

end BareClause

theorem bareIndexed?_eq_some_iff {text : List Char} {source : Source} :
    bareIndexed? text = some source ↔
      ∃ clause : BareClause, text = clause.text ∧ source = clause.source := by
  simp only [bareIndexed?, Option.bind_eq_bind, Option.bind_eq_some_iff, Prod.exists,
    dropKeyword?_eq_some_iff, BareRun.takeRun?_eq_some_iff, dropBlanks?_eq_some_iff,
    Option.some.injEq]
  constructor
  · rintro ⟨_, ⟨fromWord, beforeTable, rfl, -⟩, _, _, ⟨table, rfl, rfl, -⟩, _, ⟨afterTable, rfl, -⟩,
      _, ⟨indexWord, beforeIndex, rfl, -⟩, _, later, ⟨index, rfl, rfl, hended⟩, rfl⟩
    exact ⟨⟨fromWord, beforeTable, table, afterTable, indexWord, beforeIndex, index, later, hended⟩,
      rfl, rfl⟩
  · rintro ⟨clause, rfl, rfl⟩
    exact ⟨_, ⟨clause.fromWord, clause.beforeTable, rfl, clause.table.head_append _⟩,
      _, _, ⟨clause.table, rfl, rfl, fun c hc => .inl (clause.afterTable.head_append _ c hc)⟩,
      _, ⟨clause.afterTable, rfl, clause.indexWord.head_append isName_index _⟩,
      _, ⟨clause.indexWord, clause.beforeIndex, rfl, clause.index.head_append _⟩,
      _, _, ⟨clause.index, rfl, rfl, clause.ended⟩, rfl⟩

structure QuotedClause where
  fromWord : Keyword "from"
  beforeTable : Gap
  table : List Char
  nonempty : table ≠ []
  noMark : ∀ c ∈ table, c ≠ '"'
  later : List Char

def QuotedClause.text (clause : QuotedClause) : List Char :=
  clause.fromWord.text ++ (clause.beforeTable.text ++ ('"' :: (clause.table ++ '"' :: clause.later)))

theorem quotedTable?_eq_some_iff {text : List Char} {source : Source} :
    quotedTable? text = some source ↔
      ∃ clause : QuotedClause, text = clause.text ∧ source = ⟨String.ofList clause.table, none⟩ := by
  simp only [quotedTable?, Option.bind_eq_bind, Option.bind_eq_some_iff, Prod.exists,
    dropKeyword?_eq_some_iff, takeQuoted?_eq_some_iff, Option.some.injEq]
  constructor
  · rintro ⟨_, ⟨fromWord, gap, rfl, -⟩, _, later, ⟨table, rfl, hne, hmark, rfl⟩, rfl⟩
    exact ⟨⟨fromWord, gap, table, hne, hmark, later⟩, rfl, rfl⟩
  · rintro ⟨clause, rfl, rfl⟩
    exact ⟨_, ⟨clause.fromWord, clause.beforeTable, rfl, by simp [isBlank]⟩, _, clause.later,
      ⟨clause.table, rfl, clause.nonempty, clause.noMark, rfl⟩, rfl⟩

theorem quotedIndexed?_eq_some {text : List Char} {source : Source}
    (h : quotedIndexed? text = some source) :
    (∃ clause : QuotedClause, text = clause.text) ∧ source.table ≠ "" ∧ source.index ≠ some "" := by
  simp only [quotedIndexed?, Option.bind_eq_bind, Option.bind_eq_some_iff, Prod.exists,
    dropKeyword?_eq_some_iff, takeQuoted?_eq_some_iff, Option.some.injEq] at h
  obtain ⟨_, ⟨fromWord, gap, rfl, -⟩, _, later, ⟨table, rfl, htable, hmark, rfl⟩, _, -, _, -, _, _,
    ⟨index, -, hindex, -, rfl⟩, rfl⟩ := h
  refine ⟨⟨⟨fromWord, gap, table, htable, hmark, later⟩, rfl⟩, ?_, ?_⟩
  · simpa using htable
  · simpa using hindex

theorem quotedTable?_eq_some {text : List Char} {source : Source}
    (h : quotedTable? text = some source) : source.table ≠ "" ∧ source.index ≠ some "" := by
  obtain ⟨clause, -, rfl⟩ := quotedTable?_eq_some_iff.mp h
  simpa using clause.nonempty

theorem index_ne_of_bareTable? {text : List Char} {source : Source}
    (h : bareTable? text = some source) : source.index ≠ some "" := by
  simp only [bareTable?, Option.bind_eq_bind, Option.bind_eq_some_iff, Option.some.injEq] at h
  obtain ⟨_, -, _, -, rfl⟩ := h
  exact (Option.some_ne_none "").symm

/-! ### The source of a statement -/

/-- The clause by which a text is read: the first of its form, where no table is in double quotes. -/
structure BareClause.ReadIn (clause : BareClause) (text : List Char) : Prop where
  notQuoted : ∀ quoted : QuotedClause, ¬ quoted.text <:+ text
  found : clause.text <:+ text
  first : ∀ other : BareClause, other.text <:+ text → other.text <:+ clause.text

theorem search?_quotedTable_eq_none_iff {text : List Char} :
    search? quotedTable? text = none ↔ ∀ clause : QuotedClause, ¬ clause.text <:+ text := by
  rw [search?_eq_none_iff]
  constructor
  · intro h clause ht
    have hfound := quotedTable?_eq_some_iff.mpr ⟨clause, rfl, rfl⟩
    rw [h _ ht] at hfound
    cases hfound
  · refine fun h t ht => Option.eq_none_iff_forall_ne_some.mpr fun source hsource => ?_
    obtain ⟨clause, rfl, -⟩ := quotedTable?_eq_some_iff.mp hsource
    exact h clause ht

theorem search?_bareIndexed_eq_some_iff {text : List Char} {source : Source} :
    search? bareIndexed? text = some source ↔ ∃ clause : BareClause, source = clause.source ∧
      clause.text <:+ text ∧ ∀ other : BareClause, other.text <:+ text → other.text <:+ clause.text := by
  simp only [search?_eq_some_iff, Option.ne_none_iff_exists', bareIndexed?_eq_some_iff]
  constructor
  · rintro ⟨_, hfound, ⟨clause, rfl, rfl⟩, hfirst⟩
    exact ⟨clause, rfl, hfound, fun other ht => hfirst _ ht ⟨_, other, rfl, rfl⟩⟩
  · rintro ⟨clause, rfl, hfound, hfirst⟩
    refine ⟨_, hfound, ⟨clause, rfl, rfl⟩, ?_⟩
    rintro _ ht ⟨_, other, rfl, -⟩
    exact hfirst other ht

section Sources
variable {statement : String} {source : Source}

theorem source?_of_readIn {clause : BareClause} (h : clause.ReadIn statement.toList) :
    source? statement = some clause.source := by
  have hindexed : search? quotedIndexed? statement.toList = none := by
    rw [search?_eq_none_iff]
    intro t ht
    refine Option.eq_none_iff_forall_ne_some.mpr fun source hsource => ?_
    obtain ⟨⟨quoted, rfl⟩, -⟩ := quotedIndexed?_eq_some hsource
    exact h.notQuoted quoted ht
  rw [source?, hindexed, search?_quotedTable_eq_none_iff.mpr h.notQuoted,
    search?_bareIndexed_eq_some_iff.mpr ⟨clause, rfl, h.found, h.first⟩]
  rfl

/-- A source has no empty name unless it is read from two bare names. -/
theorem names_of_source? (h : source? statement = some source) :
    (source.table ≠ "" ∧ source.index ≠ some "") ∨
      ∃ clause : BareClause, clause.ReadIn statement.toList ∧ source = clause.source := by
  simp only [source?, Option.or_eq_some_iff] at h
  rcases h with hquoted | ⟨-, hquoted | ⟨htable, hbare | ⟨-, hbare⟩⟩⟩
  · obtain ⟨_, -, hfound, -⟩ := search?_eq_some_iff.mp hquoted
    exact .inl (quotedIndexed?_eq_some hfound).2
  · obtain ⟨_, -, hfound, -⟩ := search?_eq_some_iff.mp hquoted
    exact .inl (quotedTable?_eq_some hfound)
  · obtain ⟨clause, hsource, hfound, hfirst⟩ := search?_bareIndexed_eq_some_iff.mp hbare
    exact .inr ⟨clause, ⟨search?_quotedTable_eq_none_iff.mp htable, hfound, hfirst⟩, hsource⟩
  · obtain ⟨htable, hne⟩ := Option.filter_eq_some_iff.mp hbare
    obtain ⟨_, -, hfound, -⟩ := search?_eq_some_iff.mp htable
    exact .inl ⟨by simpa using hne, index_ne_of_bareTable? hfound⟩

/-- So a source with an empty name is that of the clause which the statement is read by. -/
theorem exists_source?_iff {Empty : Source → Prop}
    (hempty : ∀ source, Empty source → source.table = "" ∨ source.index = some "") :
    (∃ source, source? statement = some source ∧ Empty source) ↔
      ∃ clause : BareClause, clause.ReadIn statement.toList ∧ Empty clause.source := by
  constructor
  · rintro ⟨source, hsource, hnone⟩
    obtain ⟨htable, hindex⟩ | ⟨clause, hread, rfl⟩ := names_of_source? hsource
    · exact absurd (hempty source hnone) (not_or.mpr ⟨htable, hindex⟩)
    · exact ⟨clause, hread, hnone⟩
  · rintro ⟨clause, hread, hnone⟩
    exact ⟨clause.source, source?_of_readIn hread, hnone⟩

theorem source?_emptyTable_iff :
    (∃ source, source? statement = some source ∧ source.table = "") ↔
      ∃ clause : BareClause, clause.ReadIn statement.toList ∧ clause.table.AllQuotes := by
  rw [exists_source?_iff fun _ => .inl]
  simp only [BareClause.source, BareRun.unquoted_eq_empty_iff]

theorem source?_emptyIndex_iff :
    (∃ source, source? statement = some source ∧ source.index = some "") ↔
      ∃ clause : BareClause, clause.ReadIn statement.toList ∧ clause.index.AllQuotes := by
  rw [exists_source?_iff fun _ => .inr]
  simp only [BareClause.source, Option.some.injEq, BareRun.unquoted_eq_empty_iff]

end Sources

end Statement

namespace NativeOrder
open Statement (source? BareClause)

/-- The store is asked to describe the table of a statement that is to be ordered and is not yet. -/
theorem described_plan_iff {query : Query} {store : Store} {name : String} :
    (plan query store).2.described = store.described ++ [name] ↔
      query.scanForward ≠ none ∧ Statement.hasOrder query.statement = false ∧
        ∃ source, source? query.statement = some source ∧ source.table = name := by
  cases hasked : query.scanForward with
  | none => simp [plan_of_scanForward_eq_none store hasked]
  | some forward =>
    cases hunordered : Statement.hasOrder query.statement with
    | true => simp [plan_of_hasOrder hasked hunordered]
    | false =>
      cases hsource : source? query.statement with
      | none => simp [plan_of_no_source hasked hunordered hsource]
      | some source => simp [plan_of_source hasked hunordered hsource]

/-- The keys of the table itself stand for those of an empty index. -/
theorem plan_of_emptyIndex {query : Query} {store : Store} {forward : Bool} {name : String}
    {table : Table} (hasked : query.scanForward = some forward)
    (hunordered : Statement.hasOrder query.statement = false)
    (hsource : source? query.statement = some ⟨name, some ""⟩)
    (htable : (store.describe name).1 = .ok table) :
    (plan query store).1 = ofSchema query (.ofForward forward) (.ofElements table.keys) := by
  have hschema : schema? store ⟨name, some ""⟩ = some (.ofElements table.keys) :=
    schema?_eq_some_iff.mpr ⟨table, htable, rfl⟩
  rw [plan_of_source hasked hunordered hsource, hschema]

/-- A name is empty exactly where the clause that a statement is read by has single quotes for it.
Then a table is described under the empty name, and a table's own keys are taken for those of the
index. -/
theorem plan_of_emptyNames (query : Query) (store : Store) :
    ((∃ source, source? query.statement = some source ∧ source.table = "") ↔
      ∃ clause : BareClause, clause.ReadIn query.statement.toList ∧ clause.table.AllQuotes) ∧
    ((∃ source, source? query.statement = some source ∧ source.index = some "") ↔
      ∃ clause : BareClause, clause.ReadIn query.statement.toList ∧ clause.index.AllQuotes) ∧
    ((plan query store).2.described = store.described ++ [""] ↔
      query.scanForward ≠ none ∧ Statement.hasOrder query.statement = false ∧
        ∃ clause : BareClause, clause.ReadIn query.statement.toList ∧ clause.table.AllQuotes) ∧
    ∀ forward name table, query.scanForward = some forward →
      Statement.hasOrder query.statement = false →
      source? query.statement = some ⟨name, some ""⟩ → (store.describe name).1 = .ok table →
      (plan query store).1 = ofSchema query (.ofForward forward) (.ofElements table.keys) := by
  refine ⟨Statement.source?_emptyTable_iff, Statement.source?_emptyIndex_iff, ?_,
    fun _ _ _ => plan_of_emptyIndex⟩
  rw [described_plan_iff, Statement.source?_emptyTable_iff]

/-- A table of two single quotes is looked for without a name, and the keys of a table stand for those
of an index of two single quotes. -/
theorem plan_takes_empty_names :
    let keys : List KeyElement := [⟨"pk", .partition⟩, ⟨"sk", .sort⟩]
    let store : Store := { tables := [⟨"t", keys, [], [], []⟩] }
    let query (statement : String) : Query := { statement, scanForward := some true }
    let noTable := "SELECT * FROM '' INDEX i"
    let noIndex := "SELECT * FROM t INDEX '' WHERE pk = 1"
    source? noTable = some ⟨"", some "i"⟩ ∧ (plan (query noTable) store).2.described = [""] ∧
      source? noIndex = some ⟨"t", some ""⟩ ∧
      (plan (query noIndex) store).1 =
        { statement := noIndex ++ " ORDER BY \"sk\" ASC", applied := true, fallback := some "sk" } := by
  decide +kernel

end NativeOrder

end ItemStore
