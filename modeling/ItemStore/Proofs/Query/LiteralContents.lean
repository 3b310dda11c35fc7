import ItemStore.Proofs.Query.OrderPlan
import ItemStore.Proofs.Query.QuoteBoundary
import Mathlib.Data.List.Infix

/-! # What a literal may hold

A statement is searched as a text, so what a literal holds can be taken for a part of the statement.
A literal that is no name and holds none of the forms that are searched for does not matter: any
other such contents lead to the same plan.
-/
namespace ItemStore
open Text (isBlank upperText)

namespace Statement

def withLiteral (before contents after : List Char) : String :=
  String.ofList (before ++ '\'' :: (contents ++ '\'' :: after))

/-- A name that has been read up to the end of a text, bare or after its first double quote. -/
def isUnfinished (name : List Char) : Bool :=
  (name.all fun c => !isBlank c && c != '"') || name.head? == some '"' && name.tail.all (· != '"')

/-- The keyword of an index follows a name, and the text ends within the name of the index. -/
def endsInIndex {α : Type} (named : Option (α × List Char)) : Bool :=
  ((named.bind fun (_, text) => dropBlanks? text).bind (dropKeyword? "index")).any isUnfinished

/-- A text that begins with the keyword of a source and ends within a name of it. -/
def endsInName (text : List Char) : Bool :=
  (dropKeyword? "from" text).any fun text =>
    isUnfinished text || endsInIndex (takeQuoted? text) ||
      endsInIndex (takeRun? (fun c => !isBlank c && c != '"') text)

/-- The contents of a literal name no source that a statement is taken to read. -/
inductive NamesNoSource (before after contents : List Char) : Prop
  /-- There is no keyword of a source. -/
  | noKeyword (h : ∀ t ∈ contents.tails, dropKeyword? "from" t = none)
  /-- A table in double quotes comes first, and no name in double quotes follows a keyword. -/
  | afterQuoted (named : (search? quotedTable? before).isSome = true)
    (bare : ∀ t ∈ contents.tails, (dropKeyword? "from" t).any (·.head? == some '"') = false)
  /-- A bare table comes first, and what follows has neither a name in double quotes nor an index. -/
  | afterBare (named : (search? bareTable? before).isSome = true)
    (bare : ∀ t ∈ contents.tails, (dropKeyword? "from" t).any (·.head? == some '"') = false)
    (noIndex : ∀ t ∈ (contents ++ '\'' :: after).tails, dropKeyword? "index" t = none)

/-- The contents of a literal have no part in whether a statement mentions a phrase. -/
def Silent (phrase : String) (before after contents : List Char) : Prop :=
  Text.contains phrase.toList (upperText contents) = false ∨
    Text.contains phrase.toList (upperText before) = true ∨
    Text.contains phrase.toList (upperText after) = true

/-- The contents of a literal hold nothing that a statement is searched for, given the partition key
of what the statement reads. What stands around the literal may make up for it. -/
structure Inert (before after : List Char) (partitionKey : Option String) (contents : List Char) :
    Prop where
  order : Silent "ORDER BY" before after contents
  condition : Silent "WHERE" before after contents
  source : NamesNoSource before after contents
  comparison : ∀ key, partitionKey = some key → '\'' ∉ key.toList ∧
    ((firstComparison? key.toList none before).isSome = true ∨
      firstComparison? key.toList (some '\'') contents = none)

/-! ### Sources -/

section Forms
variable {text : List Char} (rest : List Char)

theorem closed_of_isUnfinished (h : isUnfinished text = false) :
    ∀ name, text = '"' :: name → '"' ∈ name := by
  rintro name rfl
  simpa [isUnfinished] using h

theorem run_ends_of_isUnfinished (h : isUnfinished text = false) :
    ∃ c ∈ text, (!isBlank c && c != '"') = false := by
  rw [isUnfinished, Bool.or_eq_false_iff] at h
  simpa using h.1

theorem quote_not_mem_from : '\'' ∉ "from".toList := by simp

theorem quote_not_mem_index : '\'' ∉ "index".toList := by simp

theorem quotedTable?_append_quote (h : endsInName text = false) :
    quotedTable? (text ++ '\'' :: rest) = quotedTable? text := by
  rw [quotedTable?, quotedTable?, dropKeyword?_append_quote text rest quote_not_mem_from]
  rw [endsInName] at h
  cases hfrom : dropKeyword? "from" text with
  | none => rfl
  | some named =>
    simp only [hfrom, Option.any_some, Bool.or_eq_false_iff] at h
    simp only [Option.map_some, Option.bind_eq_bind, Option.bind_some,
      takeQuoted?_append_quote (closed_of_isUnfinished h.1.1) rest]
    cases takeQuoted? named <;> rfl

theorem bareTable?_append_quote (h : endsInName text = false) :
    bareTable? (text ++ '\'' :: rest) = bareTable? text := by
  rw [bareTable?, bareTable?, dropKeyword?_append_quote text rest quote_not_mem_from]
  rw [endsInName] at h
  cases hfrom : dropKeyword? "from" text with
  | none => rfl
  | some named =>
    simp only [hfrom, Option.any_some, Bool.or_eq_false_iff] at h
    obtain ⟨c, hc, hends⟩ := run_ends_of_isUnfinished h.1.1
    have hrun : ∃ c ∈ named, (!isBlank c && c != '"' && c != ';') = false :=
      ⟨c, hc, by rw [hends, Bool.false_and]⟩
    simp only [Option.map_some, Option.bind_eq_bind, Option.bind_some, takeRun?_append hrun]
    cases takeRun? (fun c => !isBlank c && c != '"' && c != ';') named <;> rfl

theorem indexed_append_quote {α β : Type} {read : List Char → Option (β × List Char)}
    (hread : ∀ {name}, isUnfinished name = false → read (name ++ '\'' :: rest) =
      (read name).map fun (found, later) => (found, later ++ '\'' :: rest))
    {table : α} {later : List Char} (h : endsInIndex (some (table, later)) = false)
    (source : β → Source) :
    (do
      let text ← dropBlanks? (later ++ '\'' :: rest)
      let text ← dropKeyword? "index" text
      let (index, _) ← read text
      some (source index)) =
    (do
      let text ← dropBlanks? later
      let text ← dropKeyword? "index" text
      let (index, _) ← read text
      some (source index)) := by
  simp only [Option.bind_eq_bind, dropBlanks?_append_quote]
  cases hblanks : dropBlanks? later with
  | none => rfl
  | some keyword =>
    simp only [Option.map_some, Option.bind_some,
      dropKeyword?_append_quote keyword rest quote_not_mem_index]
    cases hkeyword : dropKeyword? "index" keyword with
    | none => rfl
    | some name =>
      have hunfinished : isUnfinished name = false := by
        simpa [endsInIndex, hblanks, hkeyword] using h
      simp only [Option.map_some, Option.bind_some, hread hunfinished]
      cases read name <;> rfl

theorem quotedIndexed?_append_quote (h : endsInName text = false) :
    quotedIndexed? (text ++ '\'' :: rest) = quotedIndexed? text := by
  rw [quotedIndexed?, quotedIndexed?, dropKeyword?_append_quote text rest quote_not_mem_from]
  rw [endsInName] at h
  cases hfrom : dropKeyword? "from" text with
  | none => rfl
  | some named =>
    simp only [hfrom, Option.any_some, Bool.or_eq_false_iff] at h
    obtain ⟨⟨htable, hindex⟩, -⟩ := h
    simp only [Option.map_some, Option.bind_eq_bind, Option.bind_some,
      takeQuoted?_append_quote (closed_of_isUnfinished htable) rest]
    cases hname : takeQuoted? named with
    | none => rfl
    | some pair =>
      rw [hname] at hindex
      exact indexed_append_quote rest
        (fun h => takeQuoted?_append_quote (closed_of_isUnfinished h) rest) hindex
        fun index => ⟨pair.1, some index⟩

theorem bareIndexed?_append_quote (h : endsInName text = false) :
    bareIndexed? (text ++ '\'' :: rest) = bareIndexed? text := by
  rw [bareIndexed?, bareIndexed?, dropKeyword?_append_quote text rest quote_not_mem_from]
  rw [endsInName] at h
  dsimp only
  cases hfrom : dropKeyword? "from" text with
  | none => rfl
  | some named =>
    simp only [hfrom, Option.any_some, Bool.or_eq_false_iff] at h
    obtain ⟨⟨htable, -⟩, hindex⟩ := h
    simp only [Option.map_some, Option.bind_eq_bind, Option.bind_some,
      takeRun?_append (run_ends_of_isUnfinished htable)]
    cases hname : takeRun? (fun c => !isBlank c && c != '"') named with
    | none => rfl
    | some pair =>
      rw [hname] at hindex
      exact indexed_append_quote rest (fun h => takeRun?_append (run_ends_of_isUnfinished h) _)
        hindex fun index => ⟨unquoted pair.1, some (unquoted index)⟩

end Forms

section Searches
variable {α : Type} {find : List Char → Option α} {text : List Char} {rest : List Char}

theorem search?_append_quote (hnil : find [] = none)
    (h : ∀ t ∈ text.tails, find (t ++ '\'' :: rest) = find t) :
    search? find (text ++ '\'' :: rest) = (search? find text).or (search? find rest) := by
  induction text with
  | nil =>
    have hquote : find ('\'' :: rest) = none := by rw [← hnil]; exact h [] (by simp)
    simp [search?, hquote, hnil]
  | cons c text ih =>
    rw [List.tails] at h
    obtain ⟨hc, htext⟩ := List.forall_mem_cons.mp h
    rw [List.cons_append] at hc ⊢
    rw [search?, search?, hc, ih htext, Option.or_assoc]

theorem search?_literal (h : ∀ t ∈ text.tails, find (t ++ '\'' :: rest) = none) :
    search? find (text ++ '\'' :: rest) = search? find rest := by
  induction text with
  | nil =>
    have hquote : find ('\'' :: rest) = none := h [] (by simp)
    simp [search?, hquote]
  | cons c text ih =>
    rw [List.tails] at h
    obtain ⟨hc, htext⟩ := List.forall_mem_cons.mp h
    rw [List.cons_append] at hc ⊢
    rw [search?, hc, Option.none_or, ih htext]

end Searches

section Literals
variable {text before contents after : List Char}

theorem takeQuoted?_of_head (h : text.head? ≠ some '"') : takeQuoted? text = none := by
  have hstart : Text.dropStart? ['"'] text = none := by
    cases text with
    | nil => rfl
    | cons c text =>
      have hc : c ≠ '"' := by simpa using h
      simp [Text.dropStart?, Ne.symm hc]
  rw [takeQuoted?, hstart]
  rfl

/-- After the keyword comes no name in double quotes, as the text goes on with a single one. -/
theorem quoted_of_bare (h : (dropKeyword? "from" text).any (·.head? == some '"') = false) :
    quotedIndexed? (text ++ '\'' :: after) = none ∧ quotedTable? (text ++ '\'' :: after) = none := by
  rw [quotedIndexed?, quotedTable?, dropKeyword?_append_quote text after quote_not_mem_from]
  cases hfrom : dropKeyword? "from" text with
  | none => exact ⟨rfl, rfl⟩
  | some name =>
    have hhead : (name ++ '\'' :: after).head? ≠ some '"' := by
      rw [hfrom] at h
      cases name <;> simp_all
    simp [takeQuoted?_of_head hhead]

theorem dropBlanks?_suffix {rest : List Char} (h : dropBlanks? text = some rest) : rest <:+ text := by
  cases text with
  | nil => cases h
  | cons c text =>
    rw [dropBlanks?] at h
    split at h
    · obtain rfl := Option.some.inj h
      exact (List.dropWhile_suffix _).trans (List.suffix_cons c text)
    · cases h

theorem dropKeyword?_suffix {word : String} {rest : List Char}
    (h : dropKeyword? word text = some rest) : rest <:+ text := by
  obtain ⟨later, hword, hblanks⟩ := Option.bind_eq_some_iff.mp h
  obtain ⟨_, _, rfl⟩ := Option.map_eq_some_iff.mp hword
  exact (dropBlanks?_suffix hblanks).trans (List.drop_suffix _ _)

theorem takeRun?_suffix {accepts : Char → Bool} {run rest : List Char}
    (h : takeRun? accepts text = some (run, rest)) : rest <:+ text := by
  rw [takeRun?] at h
  split at h
  · cases h
  · cases h
    exact List.dropWhile_suffix _

theorem bareIndexed?_of_no_index (h : ∀ t, t <:+ text → dropKeyword? "index" t = none) :
    bareIndexed? text = none := by
  rw [bareIndexed?]
  dsimp only
  cases hfrom : dropKeyword? "from" text with
  | none => rfl
  | some named =>
    simp only [Option.bind_eq_bind, Option.bind_some]
    cases hname : takeRun? (fun c => !isBlank c && c != '"') named with
    | none => rfl
    | some pair =>
      simp only [Option.bind_some]
      cases hblanks : dropBlanks? pair.2 with
      | none => rfl
      | some keyword =>
        have hsuffix : keyword <:+ text :=
          (dropBlanks?_suffix hblanks).trans <|
            (takeRun?_suffix hname).trans (dropKeyword?_suffix hfrom)
        rw [Option.bind_some, h keyword hsuffix]
        rfl

end Literals

def sourceAround? (before after : List Char) : Option Source :=
  ((search? quotedIndexed? before).or (search? quotedIndexed? after)).or <|
    ((search? quotedTable? before).or (search? quotedTable? after)).or <|
      ((search? bareIndexed? before).or (search? bareIndexed? after)).or <|
        ((search? bareTable? before).or (search? bareTable? after)).filter (·.table ≠ "")

theorem source?_withLiteral {before contents after : List Char}
    (hbefore : ∀ t ∈ before.tails, endsInName t = false)
    (h : NamesNoSource before after contents) :
    source? (withLiteral before contents after) = sourceAround? before after := by
  rw [source?, withLiteral, String.toList_ofList, sourceAround?]
  rw [search?_append_quote rfl fun t ht => quotedIndexed?_append_quote _ (hbefore t ht),
    search?_append_quote rfl fun t ht => quotedTable?_append_quote _ (hbefore t ht),
    search?_append_quote rfl fun t ht => bareIndexed?_append_quote _ (hbefore t ht),
    search?_append_quote rfl fun t ht => bareTable?_append_quote _ (hbefore t ht)]
  cases h with
  | noKeyword h =>
    have hfrom (t : List Char) (ht : t ∈ contents.tails) :
        dropKeyword? "from" (t ++ '\'' :: after) = none := by
      rw [dropKeyword?_append_quote t after quote_not_mem_from, h t ht]
      rfl
    rw [search?_literal fun t ht => by rw [quotedIndexed?, hfrom t ht]; rfl,
      search?_literal fun t ht => by rw [quotedTable?, hfrom t ht]; rfl,
      search?_literal fun t ht => by rw [bareIndexed?]; dsimp only; rw [hfrom t ht]; rfl,
      search?_literal fun t ht => by rw [bareTable?, hfrom t ht]; rfl]
  | afterQuoted named bare =>
    -- the table before the literal is preferred to any bare name, so those need not be looked at
    obtain ⟨source, hsource⟩ := Option.isSome_iff_exists.mp named
    rw [search?_literal fun t ht => (quoted_of_bare (bare t ht)).1, hsource]
    simp
  | afterBare named bare noIndex =>
    obtain ⟨source, hsource⟩ := Option.isSome_iff_exists.mp named
    -- a bare name that begins in the literal could take an index from what follows it
    have hindex (t : List Char) (ht : t ∈ contents.tails) :
        bareIndexed? (t ++ '\'' :: after) = none := by
      obtain ⟨start, rfl⟩ := (List.mem_tails _ _).mp ht
      refine bareIndexed?_of_no_index fun u hu => noIndex u ((List.mem_tails _ _).mpr ?_)
      rw [List.append_assoc]
      exact hu.trans (List.suffix_append start _)
    rw [search?_literal fun t ht => (quoted_of_bare (bare t ht)).1,
      search?_literal fun t ht => (quoted_of_bare (bare t ht)).2, search?_literal hindex, hsource]
    simp


/-! ### Inert contents -/

section Contents
variable {before contents after : List Char} {partitionKey : Option String}

theorem Silent.mentions {phrase : String} (h : Silent phrase before after contents)
    (hphrase : '\'' ∉ phrase.toList) :
    mentions phrase (withLiteral before contents after) =
      (Text.contains phrase.toList (upperText before) ||
        Text.contains phrase.toList (upperText after)) := by
  rw [Statement.mentions, withLiteral, String.toList_ofList, Text.upperText_append_quote,
    Text.contains_append_cons hphrase, Text.upperText_append_quote,
    Text.contains_append_cons hphrase]
  rcases h with hnone | hbefore | hafter
  · rw [hnone, Bool.false_or]
  · rw [hbefore, Bool.true_or, Bool.true_or]
  · rw [hafter, Bool.or_true]

/-- The first comparison of the partition key is the one before the literal, else the one after. -/
theorem Inert.pinsPartition (h : Inert before after partitionKey contents) {key : String}
    (hkey : partitionKey = some key) :
    pinsPartition (withLiteral before contents after) key =
      (key ≠ "" && ((firstComparison? key.toList none before).or
        (firstComparison? key.toList (some '\'') after)) == some .equality) := by
  obtain ⟨hquote, hcomparison⟩ := h.comparison key hkey
  rw [Statement.pinsPartition, withLiteral, String.toList_ofList,
    firstComparison?_append_quote _ _ hquote, firstComparison?_append_quote _ _ hquote]
  rcases hcomparison with hbefore | hnone
  · obtain ⟨comparison, hbefore⟩ := Option.isSome_iff_exists.mp hbefore
    rw [hbefore, Option.some_or, Option.some_or]
  · rw [hnone, Option.none_or]

end Contents

end Statement

namespace NativeOrder

def partitionKey? (store : Store) (statement : String) : Option String := do
  let source ← Statement.source? statement
  let schema ← schema? store source
  schema.partitionKey

/-- Two statements that hold the same as far as a plan reads them. -/
structure Alike (store : Store) (statement other : String) : Prop where
  order : Statement.hasOrder other = Statement.hasOrder statement
  condition : Statement.mentions "WHERE" other = Statement.mentions "WHERE" statement
  source : Statement.source? other = Statement.source? statement
  pinned : ∀ key, partitionKey? store statement = some key →
    Statement.pinsPartition other key = Statement.pinsPartition statement key

section Congruence
variable {query : Query} {store : Store} {statement : String} {source : Statement.Source}
  {schema : KeySchema}

theorem Alike.orderableKey_eq (h : Alike store query.statement statement)
    (hsource : Statement.source? query.statement = some source)
    (hschema : schema? store source = some schema) (requested : Option String) :
    orderableKey? statement requested schema = orderableKey? query.statement requested schema := by
  have hkey : partitionKey? store query.statement = schema.partitionKey := by
    simp [partitionKey?, hsource, hschema]
  have hpinned (key : String) (hpartition : schema.partitionKey = some key) :
      Statement.pinsPartition statement key = Statement.pinsPartition query.statement key :=
    h.pinned key (hkey.trans hpartition)
  ext sortKey
  rw [orderableKey?_eq_some_iff, orderableKey?_eq_some_iff]
  refine and_congr_right fun _ => and_congr_right fun _ => and_congr_right fun _ =>
    exists_congr fun key => and_congr_right fun hpartition => ?_
  rw [hpinned key hpartition]

theorem Alike.orderable_congr (h : Alike store query.statement statement) {forward : Bool}
    {sortKey : String} :
    Orderable { query with statement } store forward sortKey ↔
      Orderable query store forward sortKey := by
  rw [NativeOrder.orderable_iff, NativeOrder.orderable_iff, h.order, h.condition, h.source]
  refine and_congr_right fun _ => and_congr_right fun _ => and_congr_right fun _ =>
    exists_congr fun source => exists_congr fun schema => and_congr_right fun hsource =>
      and_congr_right fun hschema => ?_
  rw [h.orderableKey_eq hsource hschema]
  rfl

theorem Alike.ofSchema_eq {replaced : Query} (h : Alike store query.statement replaced.statement)
    (hrequested : replaced.requestedSortKey = query.requestedSortKey)
    (hordered : Statement.hasOrder query.statement = false)
    (hsource : Statement.source? query.statement = some source)
    (hschema : schema? store source = some schema) (direction : Direction) :
    (ofSchema replaced direction schema).applied = (ofSchema query direction schema).applied ∧
      (ofSchema replaced direction schema).fallback = (ofSchema query direction schema).fallback := by
  have hkeys : orderableKey? replaced.statement replaced.requestedSortKey schema =
      orderableKey? query.statement query.requestedSortKey schema := by
    rw [hrequested, h.orderableKey_eq hsource hschema]
  have hother : Statement.hasOrder replaced.statement = false := h.order.trans hordered
  cases hkey : orderableKey? query.statement query.requestedSortKey schema with
  | none =>
    rw [ofSchema_of_none (.inl hkey) hordered, ofSchema_of_none (.inl (hkeys.trans hkey)) hother,
      hrequested]
    exact ⟨rfl, rfl⟩
  | some sortKey =>
    cases hwhere : Statement.mentions "WHERE" query.statement with
    | true =>
      rw [ofSchema_of_some hkey hwhere hordered,
        ofSchema_of_some (hkeys.trans hkey) (h.condition.trans hwhere) hother]
      exact ⟨rfl, rfl⟩
    | false =>
      rw [ofSchema_of_none (.inr hwhere) hordered,
        ofSchema_of_none (.inr (h.condition.trans hwhere)) hother, hrequested]
      exact ⟨rfl, rfl⟩

/-- The plan for one of two statements that are read alike says the same for the other. -/
theorem Alike.plan_eq {replaced : Query} (h : Alike store query.statement replaced.statement)
    (hscan : replaced.scanForward = query.scanForward)
    (hrequested : replaced.requestedSortKey = query.requestedSortKey) :
    (plan replaced store).1.applied = (plan query store).1.applied ∧
      (plan replaced store).1.fallback = (plan query store).1.fallback ∧
      (plan replaced store).2 = (plan query store).2 := by
  cases hasked : query.scanForward with
  | none =>
    rw [plan_of_scanForward_eq_none store hasked,
      plan_of_scanForward_eq_none store (hscan.trans hasked)]
    exact ⟨rfl, rfl, rfl⟩
  | some forward =>
    cases hordered : Statement.hasOrder query.statement with
    | true =>
      rw [plan_of_hasOrder hasked hordered,
        plan_of_hasOrder (hscan.trans hasked) (h.order.trans hordered), hrequested]
      exact ⟨rfl, rfl, rfl⟩
    | false =>
      cases hsource : Statement.source? query.statement with
      | none =>
        rw [plan_of_no_source hasked hordered hsource,
          plan_of_no_source (hscan.trans hasked) (h.order.trans hordered) (h.source.trans hsource)]
        exact ⟨rfl, hrequested, rfl⟩
      | some source =>
        rw [plan_of_source hasked hordered hsource,
          plan_of_source (hscan.trans hasked) (h.order.trans hordered) (h.source.trans hsource)]
        cases hschema : schema? store source with
        | none => exact ⟨rfl, hrequested, rfl⟩
        | some schema =>
          obtain ⟨happlied, hfallback⟩ :=
            h.ofSchema_eq hrequested hordered hsource hschema (.ofForward forward)
          exact ⟨happlied, hfallback, rfl⟩

end Congruence

/-- Inert contents of a literal that is no name decide nothing: any others lead to the same plan,
which orders the statement or leaves it as it is, and describes the same table. -/
theorem plan_withLiteral (query : Query) (store : Store) {before contents other after : List Char}
    (hbefore : ∀ t ∈ before.tails, Statement.endsInName t = false)
    (hcontents : Statement.Inert before after
      (partitionKey? store (Statement.withLiteral before contents after)) contents)
    (hother : Statement.Inert before after
      (partitionKey? store (Statement.withLiteral before contents after)) other) :
    let original : Query := { query with statement := Statement.withLiteral before contents after }
    let replaced : Query := { query with statement := Statement.withLiteral before other after }
    (plan replaced store).1.applied = (plan original store).1.applied ∧
      (plan replaced store).1.fallback = (plan original store).1.fallback ∧
      (plan replaced store).2 = (plan original store).2 ∧
      ((plan replaced store).1.statement ≠ replaced.statement ↔
        (plan original store).1.statement ≠ original.statement) := by
  intro original replaced
  have halike : Alike store original.statement replaced.statement := by
    refine ⟨?_, ?_, ?_, fun key hkey => ?_⟩
    · exact (hother.order.mentions (by simp)).trans (hcontents.order.mentions (by simp)).symm
    · exact (hother.condition.mentions (by simp)).trans (hcontents.condition.mentions (by simp)).symm
    · rw [Statement.source?_withLiteral hbefore hother.source,
        Statement.source?_withLiteral hbefore hcontents.source]
    · rw [hother.pinsPartition hkey, hcontents.pinsPartition hkey]
  obtain ⟨happlied, hfallback, hstore⟩ := halike.plan_eq rfl rfl
  refine ⟨happlied, hfallback, hstore, ?_⟩
  rw [statement_ne_iff, statement_ne_iff]
  exact exists_congr fun forward => exists_congr fun sortKey => halike.orderable_congr

theorem plan_withLiteral_of_message :
    let store : Store :=
      { tables := [{ name := "T", keys := [⟨"pk", .partition⟩, ⟨"sk", .sort⟩] }] }
    let before := "SELECT * FROM \"T\" WHERE pk = ".toList
    let contents := "a message from bob".toList
    let other := "pk <> 1".toList
    let after := " AND sk > 1".toList
    let key := partitionKey? store (Statement.withLiteral before contents after)
    let query : Query := { scanForward := some true }
    let original : Query := { query with statement := Statement.withLiteral before contents after }
    let replaced : Query := { query with statement := Statement.withLiteral before other after }
    (∀ t ∈ before.tails, Statement.endsInName t = false) ∧
      Statement.Inert before after key contents ∧ Statement.Inert before after key other ∧
      (plan replaced store).1.applied = (plan original store).1.applied ∧
      (plan replaced store).1.fallback = (plan original store).1.fallback ∧
      (plan replaced store).2 = (plan original store).2 ∧
      ((plan replaced store).1.statement ≠ replaced.statement ↔
        (plan original store).1.statement ≠ original.statement) := by
  intro store before contents other after key query
  have hbefore : ∀ t ∈ before.tails, Statement.endsInName t = false := by decide +kernel
  have hkey : key = some "pk" := by decide +kernel
  have hcontents : Statement.Inert before after key contents := by
    refine ⟨.inl (by decide +kernel), .inl (by decide +kernel),
      .afterQuoted (by decide +kernel) (by decide +kernel), fun name h => ?_⟩
    obtain rfl := Option.some.inj (hkey.symm.trans h)
    exact ⟨by decide, .inl (by decide +kernel)⟩
  have hother : Statement.Inert before after key other := by
    refine ⟨.inl (by decide +kernel), .inl (by decide +kernel), .noKeyword (by decide +kernel),
      fun name h => ?_⟩
    obtain rfl := Option.some.inj (hkey.symm.trans h)
    exact ⟨by decide, .inl (by decide +kernel)⟩
  exact ⟨hbefore, hcontents, hother, plan_withLiteral query store hbefore hcontents hother⟩

/-- Contents that are not inert change the plan: the table named in single quotes, the words that
order rows, a further source, a comparison of the partition key, and a condition. -/
theorem plan_reads_literals :
    let keys : List KeyElement := [⟨"pk", .partition⟩, ⟨"sk", .sort⟩]
    let store : Store := { tables := [{ name := "T", keys }, { name := "U", keys }] }
    let planOf (before contents after : String) : NativeOrder × Store :=
      plan { statement := Statement.withLiteral before.toList contents.toList after.toList,
             scanForward := some true } store
    (planOf "SELECT * FROM " "T" " WHERE pk = 1").2.described = ["T"] ∧
    (planOf "SELECT * FROM " "U" " WHERE pk = 1").2.described = ["U"] ∧
    (planOf "SELECT * FROM \"T\" WHERE pk = " "x" "").1.statement =
      "SELECT * FROM \"T\" WHERE pk = 'x' ORDER BY \"sk\" ASC" ∧
    (planOf "SELECT * FROM \"T\" WHERE pk = " "order by x" "").1.statement =
      "SELECT * FROM \"T\" WHERE pk = 'order by x'" ∧
    (planOf "SELECT * FROM \"T\" WHERE pk = " "from \"U\" index \"I\"" "").2.described = ["U"] ∧
    (planOf "SELECT * FROM \"T\" WHERE note = " "x" " AND pk = 1").1.applied = true ∧
    (planOf "SELECT * FROM \"T\" WHERE note = " "pk > 1" " AND pk = 1").1.applied = false ∧
    (planOf "SELECT * FROM \"T\" HAVING pk = " "x" "").1.applied = false ∧
    (planOf "SELECT * FROM \"T\" HAVING pk = " "where" "").1.applied = true := by
  decide +kernel

end NativeOrder

end ItemStore
