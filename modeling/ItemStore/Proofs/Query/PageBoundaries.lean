import ItemStore.Proofs.Query.CollectionOutcome
import ItemStore.Proofs.Query.QueryRun

/-! # Where pages end

How a store cuts its rows into pages does not show in an answer. Without a limit a collection holds
all rows, and with a limit at least as many of the leading ones as are asked for, so that what is
left of them after the cut is the same for all pages.
-/
namespace ItemStore

/-- The store gives some rows in pages, each of which but the last one leads on to the next, and
nothing keeps a collection from asking for any of them. -/
structure Store.Serves (store : Store) (limits : Limits) (pages : List Page) (rows : List Row) :
    Prop where
  nonempty : pages ≠ []
  answer : ∀ (k : Nat) (hk : k < pages.length), store.answer k = .ok pages[k]
  continued : ∀ (k : Nat) (hk : k < pages.length),
    pages[k].continuation = none ↔ k + 1 = pages.length
  rows : pages.flatMap Page.rows = rows
  allowed : ∀ k < pages.length, limits.Allows store k

namespace Store.Serves
variable {store : Store} {limits : Limits} {limit : Option Nat} {pages : List Page} {rows : List Row}
  {k : Nat}

theorem rowsUpTo (h : store.Serves limits pages rows) (hk : k ≤ pages.length) :
    store.rowsUpTo k = (pages.take k).flatMap Page.rows := by
  induction k with
  | zero => rfl
  | succ k ih =>
    rw [Store.rowsUpTo_succ_of_ok (h.answer k hk), ih (Nat.le_of_succ_le hk),
      List.take_succ_eq_append_getElem hk, List.flatMap_append, List.flatMap_singleton]

theorem rowsUpTo_length (h : store.Serves limits pages rows) :
    store.rowsUpTo pages.length = rows := by
  rw [h.rowsUpTo (Nat.le_refl _), List.take_length, h.rows]

theorem rowsUpTo_prefix (h : store.Serves limits pages rows) (hk : k ≤ pages.length) :
    store.rowsUpTo k <+: rows := by
  refine ⟨(pages.drop k).flatMap Page.rows, ?_⟩
  rw [h.rowsUpTo hk, ← List.flatMap_append, List.take_append_drop, h.rows]

theorem tokenAt_eq_none_iff (h : store.Serves limits pages rows) (hk : k < pages.length) :
    store.tokenAt (k + 1) = none ↔ k + 1 = pages.length := by
  rw [Store.tokenAt_succ_of_ok (h.answer k hk)]
  exact h.continued k hk

theorem lt_of_reaches (h : store.Serves limits pages rows)
    (reached : Collection.Reaches limits limit store k) : k < pages.length := by
  by_contra hbeyond
  have hpos : 0 < pages.length := List.length_pos_iff.mpr h.nonempty
  have hlast : pages.length - 1 + 1 = pages.length := Nat.sub_add_cancel hpos
  have hwants := (reached (pages.length - 1) (by omega)).2
  exact hwants.followed ((h.tokenAt_eq_none_iff (by omega)).mpr hlast)

theorem exists_collected (h : store.Serves limits pages rows) (few : rows.length < limits.maxItems)
    (statement : String) (limit : Option Nat) :
    ∃ collected, (Collection.collect statement limit limits store).1 = .ok collected ∧
      collected.rows <+: rows ∧
      (collected = ⟨rows, pages.length, .exhausted⟩ ∨
        ∃ n, limit = some n ∧ n ≤ collected.rows.length) := by
  obtain ⟨k, reached, ⟨i, interrupted, -⟩ | ⟨stop, stopped, hresult⟩⟩ :=
    Collection.collect_cases statement limit limits store
  · have hk := h.lt_of_reaches reached
    exact absurd (h.answer k hk) (interrupted.answer_ne_ok (h.allowed k hk) _)
  · have hk : k + 1 ≤ pages.length := h.lt_of_reaches reached
    have hleads := h.rowsUpTo_prefix hk
    refine ⟨_, hresult, hleads, ?_⟩
    by_cases hlimit : ∃ n, limit = some n ∧ n ≤ (store.rowsUpTo (k + 1)).length
    · exact .inr hlimit
    · obtain ⟨-, -, hexhausted, htoken⟩ := Collection.reason_of_stop? stopped
      obtain rfl : stop = .exhausted := by
        refine hexhausted.mpr ⟨Nat.lt_of_le_of_lt hleads.length_le few, fun n hn => ?_⟩
        exact Nat.lt_of_not_le fun hle => hlimit ⟨n, hn, hle⟩
      have hlast : k + 1 = pages.length := (h.tokenAt_eq_none_iff hk).mp (htoken rfl)
      exact .inl (by rw [hlast, h.rowsUpTo_length])

theorem plan (h : store.Serves limits pages rows) (query : Query) :
    (NativeOrder.plan query store).2.Serves limits pages rows := by
  obtain ⟨names, -, hplanned⟩ := NativeOrder.plan_store query store
  rw [hplanned]
  refine ⟨h.nonempty, h.answer, h.continued, h.rows, fun k hk => ?_⟩
  obtain ⟨notCancelled, inTime, pagesLeft⟩ := h.allowed k hk
  exact ⟨notCancelled, inTime, pagesLeft⟩

end Store.Serves

namespace Query
variable {query : Query} {name : String} {limits : Limits} {store : Store} {pages : List Page}
  {rows : List Row}

theorem run_of_serves (h : store.Serves limits pages rows) (few : rows.length < limits.maxItems)
    (hblank : Text.isBlankText query.statement = false) (unlimited : query.limit = none) :
    (query.run name limits store).1 =
      query.resultOf name (NativeOrder.plan query store).1 ⟨rows, pages.length, .exhausted⟩ := by
  obtain ⟨collected, hcollected, -, rfl | ⟨n, hn, -⟩⟩ :=
    (h.plan query).exists_collected few (NativeOrder.plan query store).1.statement query.limit
  · rw [run_of_not_blank hblank, collection, hcollected]
    rfl
  · rw [unlimited] at hn
    cases hn

/-- Of leading rows that are enough for a limit, the same are shown as of all rows. -/
theorem shownRows_of_prefix {plan : NativeOrder} {leading : List Row} {n : Nat}
    (hlimit : query.limit = some n) (hleads : leading <+: rows)
    (enough : leading = rows ∨ n ≤ leading.length)
    (unsorted : n ≠ 0 → SortOrder.resolve query plan rows.head? = none) :
    query.shownRows plan leading = rows.take n := by
  rw [shownRows, hlimit, Row.upTo]
  by_cases hn : n = 0
  · rw [hn, List.take_zero, List.take_zero]
  · have hsort : query.sortFor plan leading = none := by
      rw [sortFor]
      split
      · rfl
      · next hleading =>
        obtain ⟨first, rest, rfl⟩ := List.exists_cons_of_ne_nil (mt List.isEmpty_iff.mpr hleading)
        obtain ⟨later, rfl⟩ := hleads
        exact unsorted hn
    rw [hsort, SortOrder.arrange]
    rcases enough with rfl | hle
    · rfl
    · obtain ⟨later, rfl⟩ := hleads
      rw [List.take_append_of_le_length hle]

theorem frame_run_of_serves {n : Nat} (h : store.Serves limits pages rows)
    (few : rows.length < limits.maxItems) (hblank : Text.isBlankText query.statement = false)
    (hlimit : query.limit = some n)
    (unsorted : n ≠ 0 → SortOrder.resolve query (NativeOrder.plan query store).1 rows.head? = none) :
    (query.run name limits store).1.map QueryResult.frame =
      Frame.ofRows name (rows.take n) query.formats := by
  obtain ⟨collected, hcollected, hleads, hcases⟩ :=
    (h.plan query).exists_collected few (NativeOrder.plan query store).1.statement query.limit
  have enough : collected.rows = rows ∨ n ≤ collected.rows.length := by
    rcases hcases with rfl | ⟨m, hm, hle⟩
    · exact .inl rfl
    · obtain rfl := Option.some.inj (hlimit.symm.trans hm)
      exact .inr hle
  rw [run_of_collected hblank hcollected, shownRows_of_prefix hlimit hleads enough unsorted]
  cases Frame.ofRows name (rows.take n) query.formats <;> rfl

/-- Two ways of cutting the same rows into pages. Without a limit both give the same frame or fail
alike, with the same sort, and neither leaves a row out. With a limit and nothing to sort by, both
give the frame of the leading rows up to the limit. -/
theorem run_repaged {one other : Store} {otherPages : List Page}
    (hone : one.Serves limits pages rows) (hother : other.Serves limits otherPages rows)
    (htables : other.tables = one.tables)
    (hfailure : other.describeFailure = one.describeFailure)
    (few : rows.length < limits.maxItems) :
    (query.limit = none →
      ((query.run name limits other).1.map fun result => (result.frame, result.sort, result.stop)) =
        ((query.run name limits one).1.map fun result =>
          (result.frame, result.sort, result.stop)) ∧
      ∀ result, (query.run name limits one).1 = .ok result → result.stop = .exhausted) ∧
    ∀ n, query.limit = some n →
      (n ≠ 0 → SortOrder.resolve query (NativeOrder.plan query one).1 rows.head? = none) →
      (query.run name limits other).1.map QueryResult.frame =
        (query.run name limits one).1.map QueryResult.frame ∧
      (Text.isBlankText query.statement = false →
        (query.run name limits one).1.map QueryResult.frame =
          Frame.ofRows name (rows.take (min n rows.length)) query.formats) := by
  have hplan : (NativeOrder.plan query other).1 = (NativeOrder.plan query one).1 :=
    NativeOrder.plan_congr htables hfailure
  cases hblank : Text.isBlankText query.statement with
  | true =>
    rw [run_of_blank hblank, run_of_blank hblank]
    constructor
    · intro _
      refine ⟨rfl, ?_⟩
      intro result hresult
      cases hresult
    · intro n _ _
      refine ⟨rfl, ?_⟩
      intro hfalse
      cases hfalse
  | false =>
    constructor
    · intro unlimited
      rw [run_of_serves hone few hblank unlimited, run_of_serves hother few hblank unlimited, hplan,
        resultOf_eq, resultOf_eq]
      constructor
      · cases Frame.ofRows name _ query.formats <;> rfl
      · intro result hresult
        obtain ⟨frame, -, rfl⟩ := Failure.map_eq_ok_iff.mp hresult
        rfl
    · intro n hlimit unsorted
      rw [frame_run_of_serves hone few hblank hlimit unsorted]
      rw [← hplan] at unsorted
      rw [frame_run_of_serves hother few hblank hlimit unsorted]
      refine ⟨rfl, ?_⟩
      intro _
      rw [← List.take_eq_take_min]

/-- Three rows on one page, and on three of which the second one is empty: with a limit of two the
first page is enough for the one store and is not for the other. -/
theorem run_repaged_of_empty_page :
    let rows : List Row := [[("k", .string "a")], [("k", .string "b")], [("k", .string "c")]]
    let one : Store := { answers := [.ok { rows }] }
    let other : Store := {
      answers := [.ok { rows := rows.take 1, token := some "1" },
        .ok { rows := [], token := some "2" }, .ok { rows := rows.drop 1 }] }
    let query : Query := { statement := "SELECT * FROM T", limit := some 2 }
    (query.run "A" {} one).1.map QueryResult.frame =
        Frame.ofRows "A" [[("k", .string "a")], [("k", .string "b")]] [] ∧
      (query.run "A" {} other).1.map QueryResult.frame =
        Frame.ofRows "A" [[("k", .string "a")], [("k", .string "b")]] [] := by
  intro rows one other query
  have hone : one.Serves {} [{ rows }] rows :=
    { nonempty := by simp
      answer := by
        intro k hk
        obtain rfl := Nat.lt_one_iff.mp hk
        rfl
      continued := by decide
      rows := rfl
      allowed := by
        intro k hk
        obtain rfl := Nat.lt_one_iff.mp hk
        exact ⟨rfl, by decide, by decide⟩ }
  have hother : other.Serves {} [{ rows := rows.take 1, token := some "1" },
      { rows := [], token := some "2" }, { rows := rows.drop 1 }] rows :=
    { nonempty := by simp
      answer := by
        intro k hk
        match k, hk with
        | 0, _ | 1, _ | 2, _ => rfl
      continued := by decide
      rows := rfl
      allowed := by
        intro k hk
        match k, hk with
        | 0, _ | 1, _ | 2, _ => exact ⟨rfl, by decide, by decide⟩ }
  have hresolve : SortOrder.resolve query (NativeOrder.plan query one).1 rows.head? = none := rfl
  obtain ⟨hsame, hframe⟩ := (run_repaged hone hother rfl rfl (by decide)).2 2 rfl fun _ => hresolve
  have hleading := hframe (by decide +kernel)
  exact ⟨hleading, hsame.trans hleading⟩

end Query

end ItemStore
