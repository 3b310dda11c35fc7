import ItemStore.Proofs.Query.NameComparison
import ItemStore.Proofs.Query.OrderClause

/-! # Statements that pin one partition of an index

A statement `SELECT * FROM "table" INDEX "index" WHERE "key" = 'value'` reads a single partition. It is
ordered by the sort key of the index, unless the key is compared before the condition: in one of the
names, or where the table has the name of the key and the keyword `INDEX` begins as an operator does.
-/
namespace ItemStore.Statement
open Text (SameLetters isBlank isWord)

def keyworded (word : String) (text : List Char) : List Char := word.toList ++ ' ' :: text

/-- A statement that reads one partition of an index. -/
structure PinnedSelect where
  table : StoreName
  index : StoreName
  partitionKey : StoreName
  value : List Char
  letters : ∀ c ∈ value, isNameLetter c = true

namespace PinnedSelect
variable (s : PinnedSelect)

def statement : String :=
  "SELECT * FROM \"" ++ s.table.name ++ "\" INDEX \"" ++ s.index.name ++ "\" WHERE \"" ++
    s.partitionKey.name ++ "\" = '" ++ String.ofList s.value ++ "'"

def condition : List Char :=
  '"' :: (s.partitionKey.name.toList ++ '"' :: ' ' :: '=' :: ' ' :: '\'' :: (s.value ++ ['\'']))

def whereClause : List Char := keyworded "WHERE" s.condition

def indexText : List Char := '"' :: (s.index.name.toList ++ '"' :: ' ' :: s.whereClause)

def indexClause : List Char := keyworded "INDEX" s.indexText

def tableText : List Char := '"' :: (s.table.name.toList ++ '"' :: ' ' :: s.indexClause)

def fromClause : List Char := keyworded "FROM" s.tableText

theorem toList_statement :
    s.statement.toList = keyworded "SELECT" ('*' :: ' ' :: s.fromClause) := by
  have hstart : "SELECT * FROM \"".toList =
      "SELECT".toList ++ ' ' :: '*' :: ' ' :: ("FROM".toList ++ [' ', '"']) := by decide
  have hindex : "\" INDEX \"".toList = '"' :: ' ' :: ("INDEX".toList ++ [' ', '"']) := by decide
  have hwhere : "\" WHERE \"".toList = '"' :: ' ' :: ("WHERE".toList ++ [' ', '"']) := by decide
  have hequals : "\" = '".toList = ['"', ' ', '=', ' ', '\''] := by decide
  have hend : "'".toList = ['\''] := by decide
  unfold statement
  simp only [String.toList_append, hstart, hindex, hwhere, hequals, hend, String.toList_ofList,
    fromClause, tableText, indexClause, indexText, whereClause, condition, keyworded,
    List.append_assoc, List.cons_append, List.nil_append]

/-- A comparison is found before the condition: the name of the table is the partition key, and the
first letters of the keyword `INDEX` are an operator, or a comparison is read in a name. -/
def Misread : Prop :=
  SameLetters s.partitionKey.name.toList s.table.name.toList ∨
    NamesComparison s.partitionKey.name.toList s.table.name.toList ∨
    NamesComparison s.partitionKey.name.toList s.index.name.toList

theorem isNameLetter_keyword :
    ∀ word ∈ ["SELECT", "FROM", "INDEX", "WHERE"], word.toList.all isNameLetter = true := by
  decide

theorem not_namesComparison_keyword :
    ∀ word ∈ ["SELECT", "FROM", "INDEX", "WHERE"],
      ¬ NamesComparison s.partitionKey.name.toList word.toList := by
  have hsuffixes : ∀ word ∈ ["SELECT", "FROM", "INDEX", "WHERE"],
      ∀ t ∈ word.toList.tail.tails, ¬ StartsOperator t := by decide
  exact fun word hword => not_namesComparison s.partitionKey.toList_ne_nil (hsuffixes word hword)

section Search
variable {rest : List Char} {before : Option Char}

/-- A keyword and the blank after it are passed over, where a name or an asterisk follows. -/
theorem firstComparison?_keyword {word : String} (hword : word ∈ ["SELECT", "FROM", "INDEX", "WHERE"])
    (hrest : ∃ c ∈ ['*', '"'], rest.head? = some c) (hbefore : before.any isWord = false) :
    firstComparison? s.partitionKey.name.toList before (keyworded word rest) = some .equality ↔
      firstComparison? s.partitionKey.name.toList (some ' ') rest = some .equality := by
  have hnone : comparison? (' ' :: rest) = none := by
    have hsigns : ∀ c ∈ ['*', '"'], (isBlank c = false ∧ c ∉ ['=', '<', '>', '!']) ∧
        c.toLower ≠ 'i' ∧ c.toLower ≠ 'b' := List.all_iff_forall_prop.mp (by decide)
    obtain ⟨c, hc, hhead⟩ := hrest
    obtain ⟨tail, rfl⟩ := List.head?_eq_some_iff.mp hhead
    rw [comparison?_space, comparison?_eq_none (hsigns c hc).1 (hsigns c hc).2]
  have hletters : ∀ c ∈ word.toList, isNameLetter c = true :=
    List.all_eq_true.mp (isNameLetter_keyword word hword)
  rw [keyworded, firstComparison?_word s.partitionKey.letters s.partitionKey.toList_ne_nil hletters
    (isSeparator_of_mem (by decide)) (by simp) hnone hbefore]
  simp [s.not_namesComparison_keyword word hword]

/-- A name after its first quote is passed over, if no comparison is read in it. -/
theorem firstComparison?_name (n : StoreName) :
    firstComparison? s.partitionKey.name.toList (some '"') (n.name.toList ++ '"' :: ' ' :: rest) =
        some .equality ↔
      ¬ NamesComparison s.partitionKey.name.toList n.name.toList ∧
        firstComparison? s.partitionKey.name.toList (some ' ') rest = some .equality := by
  obtain ⟨hletters, hkey⟩ := And.intro s.partitionKey.letters s.partitionKey.toList_ne_nil
  have hspace : IsSeparator ' ' := isSeparator_of_mem (by decide)
  rw [firstComparison?_word hletters hkey n.letters (isSeparator_of_mem (by decide))
    (fun _ => ⟨' ', rest, rfl, hspace⟩) comparison?_mark (by decide),
    firstComparison?_separator hletters hkey hspace (by simp)]

theorem firstComparison?_condition (before : Option Char) :
    firstComparison? s.partitionKey.name.toList before s.condition = some .equality := by
  rw [condition, firstComparison?_quoted s.partitionKey.letters s.partitionKey.toList_ne_nil
    s.partitionKey.letters, if_pos (SameLetters.refl _)]
  rfl

theorem firstComparison?_indexText (before : Option Char) :
    firstComparison? s.partitionKey.name.toList before s.indexText = some .equality ↔
      ¬ NamesComparison s.partitionKey.name.toList s.index.name.toList := by
  have hwhere : comparison? (' ' :: s.whereClause) = none :=
    comparison?_space.trans (comparison?_eq_none (by decide) (by decide))
  rw [indexText, firstComparison?_quoted s.partitionKey.letters s.partitionKey.toList_ne_nil
    s.index.letters, hwhere, ite_self, Option.none_or, firstComparison?_name,
    whereClause, s.firstComparison?_keyword (by decide) ⟨'"', by decide, rfl⟩ (by decide)]
  simp [s.firstComparison?_condition]

theorem firstComparison?_tableText (before : Option Char) :
    firstComparison? s.partitionKey.name.toList before s.tableText = some .equality ↔
      ¬ s.Misread := by
  have hindex : comparison? (' ' :: s.indexClause) = some .other := comparison?_index
  rw [tableText, firstComparison?_quoted s.partitionKey.letters s.partitionKey.toList_ne_nil
    s.table.letters, hindex, Misread]
  by_cases hsame : SameLetters s.partitionKey.name.toList s.table.name.toList
  · simp [hsame]
  · rw [if_neg hsame, Option.none_or, firstComparison?_name, indexClause,
      s.firstComparison?_keyword (by decide) ⟨'"', by decide, rfl⟩ (by decide),
      firstComparison?_indexText]
    simp [hsame]

end Search

/-- The comparison in the condition comes first if none is found in the names before it. -/
theorem pinsPartition_iff :
    pinsPartition s.statement s.partitionKey.name = true ↔ ¬ s.Misread := by
  have hskip {d : Char} (hd : d ∈ [' ', '*']) {before : Option Char} {rest : List Char} :
      firstComparison? s.partitionKey.name.toList before (d :: rest) =
        firstComparison? s.partitionKey.name.toList (some d) rest := by
    have hmark : d ≠ '"' := by
      rintro rfl
      exact absurd hd (by decide)
    exact firstComparison?_separator s.partitionKey.letters s.partitionKey.toList_ne_nil
      (isSeparator_of_mem (by simp_all)) fun h => absurd h hmark
  rw [pinsPartition, Bool.and_eq_true, beq_iff_eq, toList_statement,
    s.firstComparison?_keyword (by decide) ⟨'*', by decide, rfl⟩ (by decide), hskip (by decide),
    hskip (by decide), fromClause,
    s.firstComparison?_keyword (by decide) ⟨'"', by decide, rfl⟩ (by decide),
    firstComparison?_tableText]
  simp [s.partitionKey.nonempty]

/-! ### What else is read in the statement -/

/-- Words without a quote are looked for before it and after it. -/
theorem contains_upperText_append_cons {phrase : List Char} {d : Char} (hd : Text.upper d = [d])
    (h : d ∉ phrase) (text rest : List Char) :
    Text.contains phrase (Text.upperText (text ++ d :: rest)) =
      (Text.contains phrase (Text.upperText text) || Text.contains phrase (Text.upperText rest)) := by
  rw [Text.upperText_append, Text.upperText_cons, hd, List.singleton_append,
    Text.contains_append_cons h]

theorem contains_order_name {name : List Char} (h : ∀ c ∈ name, isNameLetter c = true) :
    Text.contains "ORDER BY".toList (Text.upperText name) = false := by
  refine Bool.eq_false_iff.mpr fun hcontains => ?_
  have hblank : ' ' ∈ Text.upperText name :=
    (Text.contains_iff.mp hcontains).subset (by decide)
  obtain ⟨c, hc, hupper⟩ := List.mem_flatMap.mp hblank
  obtain rfl := Text.eq_of_mem_upper (by decide) hupper
  exact absurd (h ' ' hc) (by decide)

theorem hasOrder_statement : hasOrder s.statement = false := by
  have hmark : Text.upper '"' = ['"'] ∧ '"' ∉ "ORDER BY".toList := by decide
  have hquote : Text.upper '\'' = ['\''] ∧ '\'' ∉ "ORDER BY".toList := by decide
  have htext : s.statement.toList = "SELECT * FROM ".toList ++ '"' :: (s.table.name.toList ++
      '"' :: (" INDEX ".toList ++ '"' :: (s.index.name.toList ++ '"' :: (" WHERE ".toList ++
        '"' :: (s.partitionKey.name.toList ++ '"' :: (" = ".toList ++ '\'' :: (s.value ++
          '\'' :: "".toList))))))) := by
    simp [toList_statement, fromClause, tableText, indexClause, indexText, whereClause, condition,
      keyworded]
  rw [hasOrder, mentions, htext]
  simp only [contains_upperText_append_cons hmark.1 hmark.2,
    contains_upperText_append_cons hquote.1 hquote.2, contains_order_name s.table.letters,
    contains_order_name s.index.letters, contains_order_name s.partitionKey.letters,
    contains_order_name s.letters]
  decide

theorem whereClause_suffix : s.whereClause <:+ s.statement.toList := by
  have hindex : s.whereClause <:+ s.indexClause :=
    ⟨"INDEX".toList ++ ' ' :: '"' :: (s.index.name.toList ++ ['"', ' ']),
      by simp [indexClause, indexText, keyworded]⟩
  have htable : s.indexClause <:+ s.fromClause :=
    ⟨"FROM".toList ++ ' ' :: '"' :: (s.table.name.toList ++ ['"', ' ']),
      by simp [fromClause, tableText, keyworded]⟩
  have hstatement : s.fromClause <:+ s.statement.toList :=
    ⟨"SELECT".toList ++ [' ', '*', ' '], by simp [toList_statement, keyworded]⟩
  exact hindex.trans (htable.trans hstatement)

theorem mentions_where : mentions "WHERE" s.statement = true := by
  have hword : Text.upperText "WHERE".toList = "WHERE".toList := by decide
  obtain ⟨lead, hlead⟩ := s.whereClause_suffix
  rw [mentions, Text.contains_iff, ← hlead, whereClause, keyworded, Text.upperText_append,
    Text.upperText_append, hword, ← List.append_assoc]
  exact List.infix_append _ _ _

theorem not_isBlank_head {d : Char} (hd : isBlank d = false) (rest : List Char) :
    ∀ c ∈ (d :: rest).head?, isBlank c = false := by
  rintro c hc
  rwa [← Option.some.inj hc]

theorem dropKeyword?_fromClause : dropKeyword? "from" s.fromClause = some s.tableText :=
  dropKeyword?_keyword ⟨"FROM".toList, by decide⟩ .space (not_isBlank_head (by decide) _)

theorem dropKeyword?_indexClause : dropKeyword? "index" s.indexClause = some s.indexText :=
  dropKeyword?_keyword ⟨"INDEX".toList, by decide⟩ .space (not_isBlank_head (by decide) _)

theorem dropBlanks?_indexClause : dropBlanks? (' ' :: s.indexClause) = some s.indexClause :=
  dropBlanks?_gap .space (not_isBlank_head (by decide) _)

theorem takeQuoted?_storeName (n : StoreName) (rest : List Char) :
    takeQuoted? ('"' :: (n.name.toList ++ '"' :: rest)) = some (n.name, rest) := by
  have htext : n.toName.text ++ rest = '"' :: (n.name.toList ++ '"' :: rest) := by
    simp [StoreName.text_toName]
  rw [← htext, takeQuoted?_name rfl]
  simp [StoreName.toName]

/-- The first keyword of a source is followed by the table, and the table by the index. -/
theorem source?_statement : source? s.statement = some ⟨s.table.name, some s.index.name⟩ := by
  have hclause : quotedIndexed? s.fromClause = some ⟨s.table.name, some s.index.name⟩ := by
    rw [quotedIndexed?, dropKeyword?_fromClause, Option.bind_eq_bind, Option.bind_some, tableText,
      takeQuoted?_storeName]
    simp [dropBlanks?_indexClause, dropKeyword?_indexClause, indexText, takeQuoted?_storeName]
  have hpass : ∀ c ∈ "SELECT".toList ++ [' ', '*', ' '], c.toLower ≠ 'f' :=
    List.all_iff_forall_prop.mp (by decide)
  have hsplit : s.statement.toList = ("SELECT".toList ++ [' ', '*', ' ']) ++
      ((⟨"FROM".toList, by decide⟩ : Keyword "from").text ++ ' ' :: s.tableText) := by
    simp [toList_statement, fromClause, keyworded]
  rw [source?, hsplit, search?_pass beginsFrom_quotedIndexed hpass,
    search?_keyword beginsFrom_quotedIndexed]
  rw [← keyworded, ← fromClause, hclause, Option.some_or, Option.some_or]

theorem quoteName_storeName (n : StoreName) : quoteName n.name = "\"" ++ n.name ++ "\"" := by
  have hmark : '"' ∉ n.name.toList := fun h => absurd (n.letters _ h) (by decide)
  rw [quoteName, if_neg n.nonempty, Text.enclosed, Text.replaceChar_of_not_mem hmark]
  simp [String.ext_iff]

/-- The statement begins and ends with no blank, and no semicolon ends it. -/
theorem ordering_statement (key : StoreName) (direction : Direction) :
    ordering s.statement key.name direction =
      s.statement ++ " ORDER BY \"" ++ key.name ++ "\" " ++ direction.keyword := by
  obtain ⟨lead, hlead⟩ := s.whereClause_suffix
  have hlast : s.statement.toList.getLast? = some '\'' := by
    have hcondition : s.condition = ('"' :: (s.partitionKey.name.toList ++
        '"' :: ' ' :: '=' :: ' ' :: '\'' :: s.value)) ++ ['\''] := by
      simp [condition]
    rw [← hlead, whereClause, keyworded, hcondition, ← List.cons_append, ← List.append_assoc,
      ← List.append_assoc, List.getLast?_concat]
  have hhead : s.statement.toList.head? = some 'S' := by
    simp [toList_statement, keyworded]
  have htrim : Text.trim s.statement.toList = s.statement.toList := by
    refine Text.trim_of_ends (fun c hc => ?_) fun c hc => ?_
    · obtain rfl : 'S' = c := Option.some.inj (hhead.symm.trans hc)
      decide
    · obtain rfl : '\'' = c := Option.some.inj (hlast.symm.trans hc)
      decide
  have horder : " ORDER BY \"" = " ORDER BY " ++ "\"" := by decide
  have hend : "\" " = "\"" ++ " " := by decide
  rw [ordering, htrim, withoutTerminator, hlast, if_neg (by decide), String.ofList_toList,
    quoteName_storeName, horder, hend]
  simp only [String.append_assoc]

end PinnedSelect

end ItemStore.Statement

namespace ItemStore.NativeOrder
open Statement (StoreName PinnedSelect)

/-- A statement that reads one partition of the only index of a table is ordered by the sort key of
the index, unless a comparison is found in the names before the condition. -/
theorem plan_pinnedSelect (s : PinnedSelect) (sortKey : StoreName) {query : Query} {store : Store}
    {forward : Bool} {table : Table} {keys : List KeyElement}
    (hstatement : query.statement = s.statement) (hforward : query.scanForward = some forward)
    (hrequested : query.requestedSortKey = none)
    (htable : (store.describe s.table.name).1 = .ok table)
    (hindex : table.globalIndexes ++ table.localIndexes = [⟨s.index.name, keys⟩])
    (hkeys : KeySchema.ofElements keys = ⟨some s.partitionKey.name, some sortKey.name⟩) :
    let described := { store with described := store.described ++ [s.table.name] }
    (¬ s.Misread → plan query store =
      ({ statement := s.statement ++ " ORDER BY \"" ++ sortKey.name ++ "\" " ++
            (Direction.ofForward forward).keyword,
         applied := true, fallback := some sortKey.name }, described)) ∧
    (s.Misread → plan query store =
      ({ statement := s.statement, applied := false, fallback := some sortKey.name }, described)) := by
  intro described
  have hunordered : Statement.hasOrder query.statement = false := hstatement ▸ s.hasOrder_statement
  have hsource : Statement.source? query.statement = some ⟨s.table.name, some s.index.name⟩ :=
    hstatement ▸ s.source?_statement
  have hfound : table.index? s.index.name = some ⟨s.index.name, keys⟩ := by
    simp [Table.index?, hindex]
  have hschema : schema? store ⟨s.table.name, some s.index.name⟩ =
      some ⟨some s.partitionKey.name, some sortKey.name⟩ := by
    refine schema?_eq_some_iff.mpr ⟨table, htable, ?_⟩
    simp [Table.keySchema, Option.filter, s.index.nonempty, hfound, hkeys]
  have hkey : orderableKey? query.statement query.requestedSortKey
        ⟨some s.partitionKey.name, some sortKey.name⟩ =
      if Statement.pinsPartition s.statement s.partitionKey.name then some sortKey.name else none := by
    simp [orderableKey?, Option.filter, hstatement, hrequested, sortKey.nonempty,
      s.partitionKey.nonempty]
  rw [plan_of_source hforward hunordered hsource, hschema]
  dsimp only
  constructor
  · intro hread
    rw [if_pos (s.pinsPartition_iff.mpr hread)] at hkey
    have hwhere : Statement.mentions "WHERE" query.statement = true := hstatement ▸ s.mentions_where
    rw [ofSchema_of_some hkey hwhere hunordered, hstatement, s.ordering_statement]
  · intro hmisread
    rw [if_neg fun hpins => s.pinsPartition_iff.mp hpins hmisread] at hkey
    rw [ofSchema_of_none (.inl hkey) hunordered, hrequested, hstatement, Option.none_or]

/-- A key that is no part of the names is found in the condition, and one that ends in a hyphen is
found in a name where `in` follows it. -/
theorem plan_pinnedSelect_of_keys :
    let keys (key : String) : List KeyElement := [⟨key, .partition⟩, ⟨"at", .sort⟩]
    let store : Store := { tables := [⟨"orders", [], [], [⟨"byDate", keys "pk"⟩], []⟩,
      ⟨"a-in", [], [], [⟨"byDate", keys "a-"⟩], []⟩] }
    let first := "SELECT * FROM \"orders\" INDEX \"byDate\" WHERE \"pk\" = 'v'"
    let second := "SELECT * FROM \"a-in\" INDEX \"byDate\" WHERE \"a-\" = 'v'"
    let query (statement : String) : Query := { statement, scanForward := some false }
    plan (query first) store =
        ({ statement := first ++ " ORDER BY \"at\" DESC", applied := true, fallback := some "at" },
          { store with described := ["orders"] }) ∧
      plan (query second) store =
        ({ statement := second, applied := false, fallback := some "at" },
          { store with described := ["a-in"] }) := by
  intro keys store first second query
  let sortKey : StoreName := .ofString "at" (by decide)
  constructor
  · let s : PinnedSelect := ⟨.ofString "orders" (by decide), .ofString "byDate" (by decide),
      .ofString "pk" (by decide), ['v'], List.all_eq_true.mp rfl⟩
    have hread : ¬ s.Misread := by
      have hkey : s.partitionKey.name.toList ≠ [] := s.partitionKey.toList_ne_nil
      rintro (hsame | htable | hindex)
      · exact absurd hsame (by decide)
      · exact Statement.not_namesComparison hkey (by decide) htable
      · exact Statement.not_namesComparison hkey (by decide) hindex
    have hstatement : (query first).statement = s.statement := by decide
    have hordered : s.statement ++ " ORDER BY \"" ++ sortKey.name ++ "\" " ++
        (Direction.ofForward false).keyword = first ++ " ORDER BY \"at\" DESC" := by decide
    have hplan : plan (query first) store = _ :=
      (plan_pinnedSelect s sortKey hstatement rfl rfl rfl rfl rfl).1 hread
    rwa [hordered] at hplan
  · let s : PinnedSelect := ⟨.ofString "a-in" (by decide), .ofString "byDate" (by decide),
      .ofString "a-" (by decide), ['v'], List.all_eq_true.mp rfl⟩
    have hmisread : s.Misread := by
      have hlast : "a-".toList.getLast? = some '-' := by decide
      refine .inr (.inl ⟨[], "a-".toList, "in".toList, ?_, .refl _, ?_, fun c hc => ?_, ?_⟩)
      · decide
      · decide
      · obtain rfl : '-' = c := Option.some.inj (hlast.symm.trans hc)
        decide
      · decide
    have hstatement : (query second).statement = s.statement := by decide
    have hplan : plan (query second) store = _ :=
      (plan_pinnedSelect s sortKey hstatement rfl rfl rfl rfl rfl).2 hmisread
    rwa [← hstatement] at hplan

/-- The order is not reached where the table has the name of the partition key, as the keyword
`INDEX` follows it, nor where the table is named as the key and an operator. -/
theorem plan_misreads_names :
    let statement (table key : String) :=
      "SELECT * FROM \"" ++ table ++ "\" INDEX \"i\" WHERE \"" ++ key ++ "\" = 'v'"
    let query (table key : String) : Query :=
      { statement := statement table key, scanForward := some true }
    let store (table key : String) : Store :=
      { tables := [⟨table, [], [], [⟨"i", [⟨key, .partition⟩, ⟨"s", .sort⟩]⟩], []⟩] }
    (plan (query "pk" "pk") (store "pk" "pk")).1 =
        { statement := statement "pk" "pk", applied := false, fallback := some "s" } ∧
      (plan (query "a-in" "a-") (store "a-in" "a-")).1 =
        { statement := statement "a-in" "a-", applied := false, fallback := some "s" } := by
  decide +kernel

end ItemStore.NativeOrder
