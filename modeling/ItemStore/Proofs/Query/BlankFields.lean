import ItemStore.Proofs.Query.QueryRun
import Mathlib.Data.List.TakeWhile

/-! # Blank sort fields

A query may name a sort key, for which the store is asked, and a field to sort by. A sort key of
blanks is as good as none. A field of blanks is none only if it is empty: any other one is taken for
the name of a field and displaces the sort that the rows would have had.
-/
namespace ItemStore

theorem Text.trimmed_of_isBlankText {text : String} (h : isBlankText text = true) :
    trimmed text = "" := by
  have hstart : trimStart text.toList = [] :=
    List.dropWhile_eq_nil_iff.mpr (List.all_eq_true.mp h)
  rw [trimmed, trim, hstart]
  rfl

theorem NativeOrder.plan_of_requestedSortKey {query : Query} {key other : Option String}
    (h : { query with sortKey := key }.requestedSortKey =
      { query with sortKey := other }.requestedSortKey) (store : Store) :
    plan { query with sortKey := key } store = plan { query with sortKey := other } store := by
  simp only [plan, ofSchema, h]

namespace Query
variable {query : Query} {name field : String} {limits : Limits} {store : Store}

/-! ### The sort key -/

theorem requestedSortKey_of_blank (query : Query) {blank : String}
    (hblank : Text.isBlankText blank = true) :
    { query with sortKey := some blank }.requestedSortKey = none := by
  simp [requestedSortKey, Text.trimmed_of_isBlankText hblank]

theorem run_of_requestedSortKey {key other : Option String}
    (h : { query with sortKey := key }.requestedSortKey =
      { query with sortKey := other }.requestedSortKey) :
    { query with sortKey := key }.run name limits store =
      { query with sortKey := other }.run name limits store := by
  simp only [run, NativeOrder.plan_of_requestedSortKey h]
  rfl

/-! ### The field to sort by -/

structure Brings (query : Query) (limits : Limits) (store : Store) (collected : Collection) : Prop where
  stated : Text.isBlankText query.statement = false
  collects : (query.collection limits store).1 = .ok collected
  nonempty : collected.rows ≠ []

theorem run_of_stated (hstated : Text.isBlankText query.statement = false) (sortBy : Option String) :
    { query with sortBy }.run name limits store =
      ((query.collection limits store).1 >>=
          { query with sortBy }.resultOf name (NativeOrder.plan query store).1,
        (query.collection limits store).2) := by
  have hsame : Text.isBlankText { query with sortBy }.statement = false := hstated
  exact run_of_not_blank hsame

theorem run_of_not_stated (hblank : Text.isBlankText query.statement = true)
    (sortBy : Option String) :
    { query with sortBy }.run name limits store = query.run name limits store := by
  have hsame : Text.isBlankText { query with sortBy }.statement = true := hblank
  rw [run_of_blank hblank, run_of_blank hsame]

theorem store_of_sortBy (query : Query) (sortBy : Option String) :
    ({ query with sortBy }.run name limits store).2 = (query.run name limits store).2 := by
  cases hblank : Text.isBlankText query.statement with
  | true => rw [run_of_not_stated hblank]
  | false => rw [run_of_stated hblank, run_of_not_blank hblank]

theorem run_of_not_brings (h : ¬ ∃ collected, query.Brings limits store collected)
    (sortBy : Option String) :
    { query with sortBy }.run name limits store = query.run name limits store := by
  cases hblank : Text.isBlankText query.statement with
  | true => exact run_of_not_stated hblank sortBy
  | false =>
    rw [run_of_stated hblank, run_of_not_blank hblank]
    cases hcollected : (query.collection limits store).1 with
    | error failure => rfl
    | ok collected =>
      have hrows : collected.rows = [] := by
        by_contra hne
        exact h ⟨collected, hblank, hcollected, hne⟩
      have hresult (q : Query) (plan : NativeOrder) : q.resultOf name plan collected =
          .ok { frame := { name }, pages := collected.pages, stop := collected.stop,
                nativeOrder := plan.applied } := by
        rw [resultOf, hrows]
        rfl
      have hbind (q : Query) (plan : NativeOrder) :
          (Except.ok collected >>= q.resultOf name plan) = q.resultOf name plan collected := rfl
      rw [hbind, hbind, hresult, hresult]

theorem sortFor_of_explicitSort {plan : NativeOrder} {rows : List Row}
    (h : query.explicitSort = some field) (hrows : rows ≠ []) :
    query.sortFor plan rows = some ⟨field, query.direction, .requested⟩ := by
  have hempty : rows.isEmpty = false := by simpa using hrows
  simp only [sortFor, hempty, Bool.false_eq_true, if_false, SortOrder.resolve, h]

/-- Rows are sorted at the request of the caller only by a field that the caller names. -/
theorem reason_of_sortFor {plan : NativeOrder} {rows : List Row} {sort : SortOrder}
    (unsorted : query.explicitSort = none) (h : query.sortFor plan rows = some sort) :
    sort.reason ≠ .requested := by
  unfold sortFor at h
  split at h
  · cases h
  simp only [SortOrder.resolve, unsorted] at h
  split at h
  · cases h
  split at h
  · obtain rfl := Option.some.inj h
    exact SortReason.noConfusion
  split at h
  · cases h
  · obtain ⟨row, -, hfield⟩ := Option.bind_eq_some_iff.mp h
    obtain ⟨field, -, hsome⟩ := Option.bind_eq_some_iff.mp hfield
    obtain rfl := Option.some.inj hsome
    exact SortReason.noConfusion

theorem Brings.run_eq {collected : Collection} (h : query.Brings limits store collected)
    (hsort : query.explicitSort = some field) (name : String) :
    (query.run name limits store).1 =
      (Frame.ofRows name (Row.upTo (Row.sort collected.rows field query.direction) query.limit)
        query.formats).map fun frame =>
          { frame, pages := collected.pages, stop := collected.stop,
            nativeOrder := (NativeOrder.plan query store).1.applied,
            sort := some ⟨field, query.direction, .requested⟩ } := by
  rw [run_of_collected h.stated h.collects, shownRows, sortFor_of_explicitSort hsort h.nonempty,
    SortOrder.arrange]

/-- A field is taken for a name unless it is empty, whatever its characters are. -/
theorem explicitSort_of_ne_empty (query : Query) (hfield : field ≠ "") :
    { query with sortBy := some field }.explicitSort = some field :=
  Option.filter_eq_some_iff.mpr ⟨rfl, by simpa⟩

/-- A sort key of blanks in place of none changes nothing. A field of blanks to sort by, in place of
none, never changes what is sent, and it changes nothing if it is empty or if no rows come in. Else
it is taken for the name of a field: the result is another one than without it, as the rows are
sorted by that field, in the direction of the query, in place of the sort that they would have had. -/
theorem run_of_blank_fields (query : Query) (name : String) (limits : Limits) (store : Store)
    {blank : String} (hblank : Text.isBlankText blank = true) :
    let unkeyed : Query := { query with sortKey := none }
    let keyed : Query := { query with sortKey := some blank }
    let without : Query := { query with sortBy := none }
    let given : Query := { query with sortBy := some blank }
    keyed.run name limits store = unkeyed.run name limits store ∧
      (given.run name limits store).2 = (without.run name limits store).2 ∧
      (blank = "" ∨ (¬ ∃ collected, without.Brings limits store collected) →
        given.run name limits store = without.run name limits store) ∧
      (blank ≠ "" → ∀ collected, without.Brings limits store collected →
        (∀ result, (given.run name limits store).1 = .ok result →
          (without.run name limits store).1 ≠ .ok result) ∧
        (given.run name limits store).1 =
          (Frame.ofRows name (Row.upTo (Row.sort collected.rows blank query.direction) query.limit)
            query.formats).map fun frame =>
              { frame, pages := collected.pages, stop := collected.stop,
                nativeOrder := (NativeOrder.plan without store).1.applied,
                sort := some ⟨blank, query.direction, .requested⟩ }) := by
  intro unkeyed keyed without given
  refine ⟨?_, store_of_sortBy without (some blank), ?_, ?_⟩
  · apply run_of_requestedSortKey
    exact requestedSortKey_of_blank query hblank
  · rintro (rfl | hnone)
    · rfl
    · exact run_of_not_brings hnone (some blank)
  · intro hne collected hbrings
    have hbrought : given.Brings limits store collected :=
      ⟨hbrings.stated, hbrings.collects, hbrings.nonempty⟩
    have hgiven := hbrought.run_eq (explicitSort_of_ne_empty query hne) name
    refine ⟨fun result hresult hsame => ?_, hgiven⟩
    rw [hgiven] at hresult
    obtain ⟨frame, -, rfl⟩ := Failure.map_eq_ok_iff.mp hresult
    obtain ⟨-, other, -, -, -, -, hsort⟩ := exists_collected_of_run hsame
    exact reason_of_sortFor rfl hsort.symm rfl

/-- Two blanks in place of a sort key, and in place of a field to sort by, in a scan that brings two
rows in. -/
theorem run_of_blank_fields_of_tab :
    let rows : List Row := [[("sk", .string "b")], [("sk", .string "a")]]
    let store : Store := { answers := [.ok { rows }] }
    let query : Query := { statement := "SELECT * FROM \"T\"", scanForward := some false }
    let keyed : Query := { query with sortKey := some "\t " }
    let given : Query := { query with sortBy := some "\t " }
    Text.isBlankText "\t " = true ∧ query.Brings {} store ⟨rows, 1, .exhausted⟩ ∧
      keyed.run "A" {} store = query.run "A" {} store ∧
      (given.run "A" {} store).2 = (query.run "A" {} store).2 ∧
      ∀ result, (given.run "A" {} store).1 = .ok result → (query.run "A" {} store).1 ≠ .ok result := by
  intro rows store query keyed given
  have hblank : Text.isBlankText "\t " = true := by decide
  have hbrings : query.Brings {} store ⟨rows, 1, .exhausted⟩ := by
    obtain ⟨names, -, hplanned⟩ := NativeOrder.plan_store query store
    refine ⟨by decide +kernel, ?_, List.cons_ne_nil _ _⟩
    rw [collection, hplanned]
    rfl
  obtain ⟨hkeyed, hstore, -, hgiven⟩ := run_of_blank_fields query "A" {} store hblank
  exact ⟨hblank, hbrings, hkeyed, hstore, (hgiven (by decide) _ hbrings).1⟩

/-- A scan of two rows in the order of the sort key. With a field of one blank to sort by, which no
row has, the rows stay in the order in which they came in. -/
theorem run_displaced_by_blank_field :
    let table : Table := { name := "T", keys := [⟨"pk", .partition⟩, ⟨"sk", .sort⟩] }
    let rows : List Row := [[("sk", .string "b")], [("sk", .string "a")]]
    let store : Store := { tables := [table], answers := [.ok { rows }] }
    let query : Query := { statement := "SELECT * FROM \"T\"", scanForward := some true }
    let given : Query := { query with sortBy := some " " }
    let shown (run : Except Failure QueryResult × Store) :=
      run.1.toOption.map fun result =>
        (result.sort, result.frame.columns.map fun column =>
          (column.name, match column.data with
            | .string texts => texts
            | _ => []))
    Text.isBlankText " " = true ∧
      shown (query.run "A" {} store) =
        some (some ⟨"sk", .ascending, .fallback⟩, [("sk", [some "a", some "b"])]) ∧
      shown (given.run "A" {} store) =
        some (some ⟨" ", .ascending, .requested⟩, [("sk", [some "b", some "a"])]) ∧
      given.run "A" {} store ≠ query.run "A" {} store := by
  intro table rows store query given shown
  have hplan : (NativeOrder.plan query store).1 =
      { statement := query.statement, fallback := some "sk" } := by decide +kernel
  have hcollected : (query.collection {} store).1 = .ok ⟨rows, 1, .exhausted⟩ := by
    obtain ⟨names, -, hplanned⟩ := NativeOrder.plan_store query store
    rw [collection, hplanned]
    rfl
  have hsort : query.sortFor (NativeOrder.plan query store).1 rows =
      some ⟨"sk", .ascending, .fallback⟩ := by
    rw [hplan]
    rfl
  have hrows : query.shownRows (NativeOrder.plan query store).1 rows = rows.reverse := by
    have hkind : (Row.commonKind? rows "sk").isSome = true := rfl
    have hlater : Row.precedesOrTies "sk" .ascending [("sk", .string "b")] [("sk", .string "a")] =
        false := rfl
    rw [shownRows, hsort, SortOrder.arrange, Row.sort, if_neg (by decide), if_pos hkind]
    simp [rows, query, Row.upTo, List.mergeSort, hlater]
  have hquery : shown (query.run "A" {} store) =
      some (some ⟨"sk", .ascending, .fallback⟩, [("sk", [some "a", some "b"])]) := by
    have hstated : Text.isBlankText query.statement = false := by decide +kernel
    simp only [shown]
    rw [run_of_collected hstated hcollected, hrows, hsort, hplan]
    decide +kernel
  have hgiven : shown (given.run "A" {} store) =
      some (some ⟨" ", .ascending, .requested⟩, [("sk", [some "b", some "a"])]) := by
    decide +kernel
  refine ⟨by decide, hquery, hgiven, fun hsame => ?_⟩
  rw [hsame, hquery] at hgiven
  exact absurd hgiven (by decide)

end Query

end ItemStore
