import ItemStore.Proofs.Query.QueryRun

/-! # A requested order is kept

Where the store cannot order the rows, they are sorted after they arrived, by the key that the
caller named or else by the sort key of what the statement reads. Each of the reasons to leave the
statement as it is hands that key on, so none of them loses the order.
-/
namespace ItemStore

namespace NativeOrder

/-- The key by which a caller who asks for an order wants the rows. -/
inductive WantedKey (query : Query) (store : Store) : String → Prop
  /-- The caller names it. -/
  | named {key : String} (hnamed : query.sortKey = some key) (hkey : Text.trimmed key ≠ "") :
    WantedKey query store (Text.trimmed key)
  /-- The caller names none, and what the statement reads has a sort key. -/
  | described (unnamed : ∀ key, query.sortKey = some key → Text.trimmed key = "")
    {source : Statement.Source} (hsource : Statement.source? query.statement = some source)
    {table : Table} (htable : (store.describe source.table).1 = .ok table)
    {schema : KeySchema} (hschema : table.keySchema source.index = .ok schema)
    {key : String} (hsortKey : schema.sortKey = some key) (hkey : key ≠ "") :
    WantedKey query store key

section Plans
variable {query : Query} {store : Store} {forward : Bool} {key : String}

theorem WantedKey.ne_empty (h : WantedKey query store key) : key ≠ "" := by
  cases h <;> assumption

/-- The wanted key, as the plan looks it up. -/
theorem WantedKey.lookup (h : WantedKey query store key) :
    query.requestedSortKey = some key ∨
      query.requestedSortKey = none ∧ ∃ source schema, Statement.source? query.statement = some source ∧
        schema? store source = some schema ∧ schema.sortKey = some key := by
  cases h with
  | named hnamed hkey => exact .inl (by simp [Query.requestedSortKey, hnamed, hkey])
  | @described unnamed source hsource table htable schema hschema _ hsortKey _ =>
    refine .inr ⟨?_, source, schema, hsource, schema?_eq_some_iff.mpr ⟨table, htable, hschema⟩,
      hsortKey⟩
    have hnone : query.requestedSortKey.all (fun _ => false) = true :=
      requestedSortKey_all.mpr fun named hnamed => .inl (unnamed named hnamed)
    cases hrequested : query.requestedSortKey with
    | none => rfl
    | some named => simp [hrequested] at hnone

theorem fallback_of_wantedKey (asked : query.scanForward = some forward)
    (wanted : WantedKey query store key) (declined : (plan query store).1.applied = false) :
    (plan query store).1.fallback = some key := by
  have hlookup := wanted.lookup
  cases hunordered : Statement.hasOrder query.statement with
  | true => simp [plan_of_hasOrder asked hunordered] at declined
  | false =>
    cases hsource : Statement.source? query.statement with
    | none =>
      rw [plan_of_no_source asked hunordered hsource]
      simpa [NativeOrder.declined, hsource] using hlookup
    | some source =>
      rw [plan_of_source asked hunordered hsource] at declined ⊢
      cases hschema : schema? store source with
      | none => simpa [NativeOrder.declined, hsource, hschema] using hlookup
      | some schema =>
        simp only [hschema] at declined ⊢
        have hfallback : query.requestedSortKey.or schema.sortKey = some key := by
          rcases hlookup with hrequested | ⟨hrequested, source', schema', hsource', hschema', hsortKey⟩
          · rw [hrequested, Option.some_or]
          · obtain rfl := Option.some.inj (hsource.symm.trans hsource')
            obtain rfl := Option.some.inj (hschema.symm.trans hschema')
            rw [hrequested, Option.none_or, hsortKey]
        cases horderable : orderableKey? query.statement query.requestedSortKey schema with
        | none => rw [ofSchema_of_none (.inl horderable) hunordered, hfallback]
        | some sortKey =>
          cases hwhere : Statement.mentions "WHERE" query.statement with
          | false => rw [ofSchema_of_none (.inr hwhere) hunordered, hfallback]
          | true => simp [ofSchema_of_some horderable hwhere hunordered] at declined

end Plans

end NativeOrder

namespace Query
variable {query : Query} {name key : String} {limits : Limits} {store : Store} {forward : Bool}

theorem sortFor_of_fallback {plan : NativeOrder} {rows : List Row}
    (asked : query.scanForward = some forward) (unsorted : query.explicitSort = none)
    (declined : plan.applied = false) (hfallback : plan.fallback = some key) (hkey : key ≠ "")
    (hrows : rows ≠ []) :
    query.sortFor plan rows = some ⟨key, .ofForward forward, .fallback⟩ := by
  have hnamed : (some key).filter (· ≠ "") = some key := Option.filter_eq_some_iff.mpr ⟨rfl, by simpa⟩
  have hempty : rows.isEmpty = false := by simpa using hrows
  simp only [sortFor, hempty, Bool.false_eq_true, if_false, SortOrder.resolve, unsorted, declined,
    hfallback, hnamed, asked, Option.getD_some]

/-- Where the store does not order the rows, they are sorted by the wanted key and then cut. -/
theorem shownRows_of_wantedKey {rows : List Row} (asked : query.scanForward = some forward)
    (unsorted : query.explicitSort = none) (wanted : NativeOrder.WantedKey query store key)
    (declined : (NativeOrder.plan query store).1.applied = false) (hrows : rows ≠ []) :
    query.sortFor (NativeOrder.plan query store).1 rows = some ⟨key, .ofForward forward, .fallback⟩ ∧
      query.shownRows (NativeOrder.plan query store).1 rows =
        Row.upTo (Row.sort rows key (.ofForward forward)) query.limit := by
  have hsort := sortFor_of_fallback asked unsorted declined
    (NativeOrder.fallback_of_wantedKey asked wanted declined) wanted.ne_empty hrows
  refine ⟨hsort, ?_⟩
  rw [shownRows, hsort, SortOrder.arrange]

/-- Rows that are asked for in the order of a key are in that order. Either the store was asked for
it with every statement that was sent, or all rows that came in were sorted by the key, in the
direction that was asked for, before they were cut to the limit. -/
theorem run_keeps_order {result : QueryResult} (asked : query.scanForward = some forward)
    (unsorted : query.explicitSort = none) (wanted : NativeOrder.WantedKey query store key)
    (h : (query.run name limits store).1 = .ok result) (hrows : result.frame.rowCount ≠ 0) :
    ∃ log, (query.run name limits store).2.requests = store.requests ++ log ∧ log ≠ [] ∧
      ((result.nativeOrder = true ∧
          ∀ request ∈ log, Statement.hasOrder request.statement = true) ∨
        (result.nativeOrder = false ∧
          result.sort = some ⟨key, if forward then .ascending else .descending, .fallback⟩ ∧
          Frame.ofRows name (Row.upTo (Row.sort (store.rowsUpTo log.length) key
            (if forward then .ascending else .descending)) query.limit) query.formats =
              .ok result.frame)) := by
  obtain ⟨hblank, collected, hcollected, hframe, -, hnative, hsort⟩ := exists_collected_of_run h
  obtain ⟨m, hrequests, hcame⟩ := exists_requestsUpTo_collection query limits store
  have hne : collected.rows ≠ [] := by
    intro hnil
    rw [hnil, shownRows_nil] at hframe
    rw [← Except.ok.inj hframe] at hrows
    exact hrows rfl
  have hcollectedRows := hcame collected hcollected
  rw [run_of_not_blank hblank]
  refine ⟨_, hrequests, ?_, ?_⟩
  · rintro hnil
    have hm : m = 0 := by
      rw [← Collection.length_requestsUpTo (NativeOrder.plan query store).1.statement query.limit
        store m, hnil, List.length_nil]
    rw [hm] at hcollectedRows
    exact hne hcollectedRows
  · cases happlied : (NativeOrder.plan query store).1.applied with
    | true =>
      refine .inl ⟨hnative.trans happlied, fun request hrequest => ?_⟩
      obtain ⟨k, -, rfl⟩ := List.mem_map.mp hrequest
      exact (NativeOrder.applied_iff.mp happlied).1
    | false =>
      obtain ⟨hsortFor, hshown⟩ := shownRows_of_wantedKey asked unsorted wanted happlied hne
      refine .inr ⟨hnative.trans happlied, hsort.trans hsortFor, ?_⟩
      rw [Collection.length_requestsUpTo, ← hcollectedRows]
      rwa [hshown] at hframe

/-- A range of partitions, whose rows the store cannot order: three rows of two pages are sorted in
descending order of the table's sort key, where a truth value among texts stays in its place, and
then two of them are shown. -/
theorem run_keeps_order_of_range :
    let store : Store := {
      tables := [{ name := "T", keys := [⟨"pk", .partition⟩, ⟨"sk", .sort⟩] }]
      answers := [.ok { rows := [[("sk", .string "a")]], token := some "next" },
        .ok { rows := [[("sk", .string "b")], [("sk", .bool true)]] }] }
    let query : Query := {
      statement := "SELECT * FROM \"T\" WHERE pk > 1", limit := some 2, scanForward := some false }
    let shown := Row.upTo (Row.sort (store.rowsUpTo 2) "sk" .descending) query.limit
    shown.map (fun row => (Entries.find? row "sk").bind Value.text?) = [some "b", some "a"] ∧
      ∃ result, (query.run "A" {} store).1 = .ok result ∧
        result.sort = some ⟨"sk", .descending, .fallback⟩ ∧
        Frame.ofRows "A" shown query.formats = .ok result.frame := by
  intro store query shown
  have hrun : ((query.run "A" {} store).1.toOption.map fun result =>
      (result.nativeOrder, result.frame.rowCount)) = some (false, 2) := by decide +kernel
  obtain ⟨result, hresult, hfacts⟩ := Option.map_eq_some_iff.mp hrun
  have h := Failure.toOption_eq_some_iff.mp hresult
  obtain ⟨hnative, hcount⟩ := Prod.mk.inj hfacts
  have asked : query.scanForward = some false := rfl
  have unsorted : query.explicitSort = none := rfl
  have hsource : Statement.source? query.statement = some ⟨"T", none⟩ := by decide +kernel
  have wanted : NativeOrder.WantedKey query store "sk" :=
    .described (by simp [query]) hsource rfl rfl rfl (by decide)
  obtain ⟨log, hlog, -, ⟨happlied, -⟩ | ⟨-, hsort, hframe⟩⟩ :=
    run_keeps_order asked unsorted wanted h (by rw [hcount]; decide)
  · rw [hnative] at happlied
    cases happlied
  · have hlength : log.length = 2 := by
      have hrequests : (query.run "A" {} store).2.requests.length = 2 := by decide +kernel
      rwa [hlog] at hrequests
    rw [hlength] at hframe
    exact ⟨by decide +kernel, result, h, hsort, hframe⟩

end Query

end ItemStore
