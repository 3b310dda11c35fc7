import ItemStore.Query.NativeOrder

/-! # When a statement is ordered

A statement is rewritten exactly when nothing stands against it: the order is asked for and not
written yet, the table and the index it reads have both keys, the key that the caller names is the
sort key, and the statement pins one partition under a condition.
-/
namespace ItemStore

namespace Statement

/-- What is left of a text without one semicolon at its end. -/
def Unterminated (text body : List Char) : Prop :=
  text = body ++ [';'] ∨ text = body ∧ body.getLast? ≠ some ';'

theorem unterminated_withoutTerminator (text : List Char) :
    Unterminated text (withoutTerminator text) := by
  unfold withoutTerminator
  split
  · next h =>
    obtain ⟨body, rfl⟩ := List.getLast?_eq_some_iff.mp h
    exact .inl (by rw [List.dropLast_concat])
  · next h => exact .inr ⟨rfl, h⟩

/-- The statement with its rows ordered by a key in double quotes. -/
def Ordered (statement key : String) (forward : Bool) (ordered : String) : Prop :=
  ∃ inner body, Text.Trims statement.toList inner ∧ Unterminated inner body ∧
    ordered = String.ofList body ++ " ORDER BY " ++
      String.ofList (['"'] ++ (key.toList.flatMap fun c => if c = '"' then ['"', '"'] else [c]) ++
        ['"']) ++ " " ++ if forward then "ASC" else "DESC"

def ordering (statement key : String) (direction : Direction) : String :=
  String.ofList (withoutTerminator (Text.trim statement.toList)) ++ " ORDER BY " ++
    quoteName key ++ " " ++ direction.keyword

theorem withOrder?_of_unordered {statement key : String} {direction : Direction} (hkey : key ≠ "")
    (hunordered : hasOrder statement = false) :
    withOrder? statement key direction =
      if mentions "WHERE" statement then some (ordering statement key direction) else none := by
  simp [withOrder?, ordering, hkey, hunordered]

theorem ordered_ordering {statement key : String} (hkey : key ≠ "") (forward : Bool) :
    Ordered statement key forward (ordering statement key (.ofForward forward)) := by
  have hkeyword : (Direction.ofForward forward).keyword = if forward then "ASC" else "DESC" := by
    cases forward <;> rfl
  refine ⟨_, _, Text.trims_trim _, unterminated_withoutTerminator _, ?_⟩
  rw [ordering, hkeyword, quoteName, if_neg hkey]
  simp only [Text.enclosed, Text.replaceChar, beq_iff_eq]

theorem hasOrder_append (before after : String) :
    hasOrder (before ++ " ORDER BY " ++ after) = true := by
  have hphrase : Text.upperText " ORDER BY ".toList = [' '] ++ "ORDER BY".toList ++ [' '] := by
    simp [Text.upperText, Text.upper]
  have hupper : Text.upperText (before ++ " ORDER BY " ++ after).toList =
      (Text.upperText before.toList ++ [' ']) ++ "ORDER BY".toList ++
        ([' '] ++ Text.upperText after.toList) := by
    simp only [String.toList_append, Text.upperText, List.flatMap_append] at hphrase ⊢
    rw [hphrase]
    simp only [List.append_assoc]
  unfold hasOrder mentions
  rw [Text.contains_iff, hupper]
  exact List.infix_append _ _ _

theorem hasOrder_ordering (statement key : String) (direction : Direction) :
    hasOrder (ordering statement key direction) = true := by
  rw [ordering, String.append_assoc, String.append_assoc]
  exact hasOrder_append _ _

end Statement

namespace NativeOrder

/-- The keys of what a statement reads, if the store can tell them. -/
def schema? (store : Store) (source : Statement.Source) : Option KeySchema :=
  match (store.describe source.table).1 with
  | .ok table => (table.keySchema source.index).toOption
  | .error _ => none

def declined (query : Query) : NativeOrder :=
  { statement := query.statement, fallback := query.requestedSortKey }

section Plans
variable {query : Query} {store : Store} {forward : Bool} {source : Statement.Source}

theorem plan_of_hasOrder (hforward : query.scanForward = some forward)
    (h : Statement.hasOrder query.statement = true) :
    plan query store =
      ({ statement := query.statement, applied := true, fallback := query.requestedSortKey },
        store) := by
  simp [plan, hforward, h]

theorem plan_of_no_source (hforward : query.scanForward = some forward)
    (hunordered : Statement.hasOrder query.statement = false)
    (h : Statement.source? query.statement = none) :
    plan query store = (declined query, store) := by
  simp [plan, hforward, hunordered, h, declined]

theorem plan_of_source (hforward : query.scanForward = some forward)
    (hunordered : Statement.hasOrder query.statement = false)
    (h : Statement.source? query.statement = some source) :
    plan query store =
      (match schema? store source with
        | some schema => ofSchema query (.ofForward forward) schema
        | none => declined query,
        { store with described := store.described ++ [source.table] }) := by
  have hafter : (store.describe source.table).2 =
      { store with described := store.described ++ [source.table] } := rfl
  rw [← hafter]
  simp only [plan, hforward, hunordered, h, schema?, Bool.false_eq_true, if_false]
  obtain ⟨answer, after⟩ := store.describe source.table
  cases answer with
  | error failure => rfl
  | ok table =>
    dsimp only
    cases table.keySchema source.index <;> rfl

theorem schema?_eq_some_iff {schema : KeySchema} :
    schema? store source = some schema ↔ ∃ table, (store.describe source.table).1 = .ok table ∧
      table.keySchema source.index = .ok schema := by
  unfold schema?
  cases (store.describe source.table).1 with
  | error failure => simp
  | ok table => cases h : table.keySchema source.index <;> simp [Except.toOption, h]

/-- A plan depends on a store only through what it describes. -/
theorem plan_congr {other : Store} (htables : other.tables = store.tables)
    (hfailure : other.describeFailure = store.describeFailure) :
    (plan query other).1 = (plan query store).1 := by
  have hschema (source : Statement.Source) : schema? other source = schema? store source := by
    simp only [schema?, Store.describe, htables, hfailure]
  cases asked : query.scanForward with
  | none => rw [plan_of_scanForward_eq_none other asked, plan_of_scanForward_eq_none store asked]
  | some forward =>
    cases hunordered : Statement.hasOrder query.statement with
    | true => rw [plan_of_hasOrder asked hunordered, plan_of_hasOrder asked hunordered]
    | false =>
      cases hsource : Statement.source? query.statement with
      | none =>
        rw [plan_of_no_source asked hunordered hsource, plan_of_no_source asked hunordered hsource]
      | some source =>
        rw [plan_of_source asked hunordered hsource, plan_of_source asked hunordered hsource,
          hschema]

theorem orderableKey?_eq_some_iff {statement sortKey : String} {requested : Option String}
    {schema : KeySchema} :
    orderableKey? statement requested schema = some sortKey ↔
      schema.sortKey = some sortKey ∧ sortKey ≠ "" ∧
        requested.all (Text.equalIgnoringCase · sortKey) = true ∧
        ∃ partitionKey, schema.partitionKey = some partitionKey ∧ partitionKey ≠ "" ∧
          Statement.pinsPartition statement partitionKey = true := by
  unfold orderableKey?
  simp only [Option.bind_eq_bind, Option.bind_eq_some_iff, Option.filter_eq_some_iff,
    Option.ite_none_right_eq_some, decide_eq_true_eq, Option.some.injEq]
  constructor
  · rintro ⟨key, ⟨hkey, hne⟩, hrequested, partitionKey, ⟨hpartition, hpne⟩, hpins, rfl⟩
    exact ⟨hkey, hne, hrequested, partitionKey, hpartition, hpne, hpins⟩
  · rintro ⟨hkey, hne, hrequested, partitionKey, hpartition, hpne, hpins⟩
    exact ⟨sortKey, ⟨hkey, hne⟩, hrequested, partitionKey, ⟨hpartition, hpne⟩, hpins, rfl⟩

theorem requestedSortKey_all {p : String → Bool} :
    query.requestedSortKey.all p = true ↔
      ∀ key, query.sortKey = some key → Text.trimmed key = "" ∨ p (Text.trimmed key) = true := by
  unfold Query.requestedSortKey
  cases query.sortKey with
  | none => simp
  | some key => by_cases h : Text.trimmed key = "" <;> simp [h]

/-- The plan with the keys known orders the statement, or leaves it for a field to sort by. -/
theorem ofSchema_of_none {direction : Direction} {schema : KeySchema}
    (h : orderableKey? query.statement query.requestedSortKey schema = none ∨
      Statement.mentions "WHERE" query.statement = false)
    (hunordered : Statement.hasOrder query.statement = false) :
    ofSchema query direction schema =
      { statement := query.statement, fallback := query.requestedSortKey.or schema.sortKey } := by
  cases hkey : orderableKey? query.statement query.requestedSortKey schema with
  | none => simp [ofSchema, hkey]
  | some sortKey =>
    obtain ⟨hsortKey, hne, -⟩ := orderableKey?_eq_some_iff.mp hkey
    have hwhere : Statement.mentions "WHERE" query.statement = false := by simpa [hkey] using h
    simp [ofSchema, hkey, Statement.withOrder?_of_unordered hne hunordered, hwhere, hsortKey]

theorem ofSchema_of_some {direction : Direction} {schema : KeySchema} {sortKey : String}
    (h : orderableKey? query.statement query.requestedSortKey schema = some sortKey)
    (hwhere : Statement.mentions "WHERE" query.statement = true)
    (hunordered : Statement.hasOrder query.statement = false) :
    ofSchema query direction schema =
      { statement := Statement.ordering query.statement sortKey direction, applied := true,
        fallback := some sortKey } := by
  obtain ⟨-, hne, -⟩ := orderableKey?_eq_some_iff.mp h
  simp [ofSchema, h, Statement.withOrder?_of_unordered hne hunordered, hwhere]

end Plans

/-- Nothing stands against ordering the statement of a query by a sort key. -/
structure Orderable (query : Query) (store : Store) (forward : Bool) (sortKey : String) : Prop where
  asked : query.scanForward = some forward
  unordered : Statement.hasOrder query.statement = false
  keys : ∃ source table schema partitionKey,
    Statement.source? query.statement = some source ∧ (store.describe source.table).1 = .ok table ∧
    table.keySchema source.index = .ok schema ∧ schema.sortKey = some sortKey ∧ sortKey ≠ "" ∧
    schema.partitionKey = some partitionKey ∧ partitionKey ≠ "" ∧
    Statement.pinsPartition query.statement partitionKey = true
  sameKey : ∀ key, query.sortKey = some key →
    Text.trimmed key = "" ∨ Text.equalIgnoringCase (Text.trimmed key) sortKey = true
  conditioned : Statement.mentions "WHERE" query.statement = true

section Spec
variable {query : Query} {store : Store} {forward : Bool} {sortKey : String}

/-- The conditions, with the keys as the plan looks them up. -/
theorem orderable_iff :
    Orderable query store forward sortKey ↔ query.scanForward = some forward ∧
      Statement.hasOrder query.statement = false ∧
      Statement.mentions "WHERE" query.statement = true ∧
      ∃ source schema, Statement.source? query.statement = some source ∧
        schema? store source = some schema ∧
        orderableKey? query.statement query.requestedSortKey schema = some sortKey := by
  simp only [orderableKey?_eq_some_iff, schema?_eq_some_iff, requestedSortKey_all]
  constructor
  · rintro ⟨hasked, hunordered, ⟨source, table, schema, partitionKey, hsource, htable, hschema, hkey,
      hne, hpartition, hpne, hpins⟩, hsame, hwhere⟩
    exact ⟨hasked, hunordered, hwhere, source, schema, hsource, ⟨table, htable, hschema⟩, hkey, hne,
      hsame, partitionKey, hpartition, hpne, hpins⟩
  · rintro ⟨hasked, hunordered, hwhere, source, schema, hsource, ⟨table, htable, hschema⟩, hkey, hne,
      hsame, partitionKey, hpartition, hpne, hpins⟩
    exact ⟨hasked, hunordered, ⟨source, table, schema, partitionKey, hsource, htable, hschema, hkey,
      hne, hpartition, hpne, hpins⟩, hsame, hwhere⟩

theorem plan_of_orderable (h : Orderable query store forward sortKey) :
    (plan query store).1 =
      { statement := Statement.ordering query.statement sortKey (.ofForward forward), applied := true,
        fallback := some sortKey } := by
  obtain ⟨hasked, hunordered, hwhere, source, schema, hsource, hschema, hkey⟩ := orderable_iff.mp h
  rw [plan_of_source hasked hunordered hsource, hschema]
  exact ofSchema_of_some hkey hwhere hunordered

theorem plan_of_not_orderable (h : ¬ ∃ forward sortKey, Orderable query store forward sortKey) :
    (plan query store).1.statement = query.statement ∧
      ((plan query store).1.applied = true ↔
        Statement.hasOrder query.statement = true ∧ query.scanForward ≠ none) := by
  cases hasked : query.scanForward with
  | none => simp [plan_of_scanForward_eq_none store hasked]
  | some forward =>
    cases hunordered : Statement.hasOrder query.statement with
    | true => simp [plan_of_hasOrder hasked hunordered]
    | false =>
      cases hsource : Statement.source? query.statement with
      | none => simp [plan_of_no_source hasked hunordered hsource, declined]
      | some source =>
        rw [plan_of_source hasked hunordered hsource]
        cases hschema : schema? store source with
        | none => simp [declined]
        | some schema =>
          have hnone : orderableKey? query.statement query.requestedSortKey schema = none ∨
              Statement.mentions "WHERE" query.statement = false := by
            cases hkey : orderableKey? query.statement query.requestedSortKey schema with
            | none => exact .inl rfl
            | some sortKey =>
              refine .inr (Bool.eq_false_iff.mpr fun hwhere => h ⟨forward, sortKey, ?_⟩)
              exact orderable_iff.mpr
                ⟨hasked, hunordered, hwhere, source, schema, hsource, hschema, hkey⟩
          dsimp only
          rw [ofSchema_of_none hnone hunordered]
          simp

/-- At most one table is described, and nothing else is asked of the store. -/
theorem plan_store (query : Query) (store : Store) :
    ∃ names : List String, names.length ≤ 1 ∧
      (plan query store).2 = { store with described := store.described ++ names } := by
  have hnone : ∃ names : List String, names.length ≤ 1 ∧
      store = { store with described := store.described ++ names } := ⟨[], by simp, by simp⟩
  cases hasked : query.scanForward with
  | none =>
    rw [plan_of_scanForward_eq_none store hasked]
    exact hnone
  | some forward =>
    cases hunordered : Statement.hasOrder query.statement with
    | true =>
      rw [plan_of_hasOrder hasked hunordered]
      exact hnone
    | false =>
      cases hsource : Statement.source? query.statement with
      | none =>
        rw [plan_of_no_source hasked hunordered hsource]
        exact hnone
      | some source =>
        rw [plan_of_source hasked hunordered hsource]
        exact ⟨[source.table], by simp, rfl⟩

theorem plan_ordered (h : Orderable query store forward sortKey) :
    Statement.Ordered query.statement sortKey forward (plan query store).1.statement := by
  obtain ⟨_, _, _, _, _, _, _, _, hne, _⟩ := h.keys
  rw [plan_of_orderable h]
  exact Statement.ordered_ordering hne forward

theorem hasOrder_plan (h : Orderable query store forward sortKey) :
    Statement.hasOrder (plan query store).1.statement = true := by
  rw [plan_of_orderable h]
  exact Statement.hasOrder_ordering _ _ _

/-- The statement is another one exactly where it is ordered, as the original is not. -/
theorem statement_ne_iff :
    (plan query store).1.statement ≠ query.statement ↔
      ∃ forward sortKey, Orderable query store forward sortKey := by
  by_cases h : ∃ forward sortKey, Orderable query store forward sortKey
  · obtain ⟨forward, sortKey, horderable⟩ := h
    have hordered := hasOrder_plan horderable
    refine iff_of_true (fun heq => ?_) ⟨forward, sortKey, horderable⟩
    rw [heq, horderable.unordered] at hordered
    cases hordered
  · simp [(plan_of_not_orderable h).1, h]

theorem applied_iff :
    (plan query store).1.applied = true ↔
      Statement.hasOrder (plan query store).1.statement = true ∧ query.scanForward ≠ none := by
  by_cases h : ∃ forward sortKey, Orderable query store forward sortKey
  · obtain ⟨forward, sortKey, horderable⟩ := h
    have happlied : (plan query store).1.applied = true := by rw [plan_of_orderable horderable]
    have hasked : query.scanForward ≠ none := by simp [horderable.asked]
    exact iff_of_true happlied ⟨hasOrder_plan horderable, hasked⟩
  · obtain ⟨hstatement, happlied⟩ := plan_of_not_orderable h
    rw [hstatement, happlied]

end Spec

/-- The plan of a query: when its statement is ordered, how, and what the store is asked for it. -/
theorem plan_spec (query : Query) (store : Store) :
    (∃ names : List String, names.length ≤ 1 ∧
      (plan query store).2 = { store with described := store.described ++ names }) ∧
    ((plan query store).1.statement ≠ query.statement ↔
      ∃ forward sortKey, Orderable query store forward sortKey) ∧
    (∀ forward sortKey, Orderable query store forward sortKey →
      Statement.Ordered query.statement sortKey forward (plan query store).1.statement) ∧
    ((plan query store).1.applied = true ↔
      Statement.hasOrder (plan query store).1.statement = true ∧ query.scanForward ≠ none) :=
  ⟨plan_store query store, statement_ne_iff, fun _ _ => plan_ordered, applied_iff⟩

end NativeOrder

end ItemStore
