import ItemStore.Proofs.Query.PageBoundaries
import ItemStore.Proofs.Query.RequestedOrder
import ItemStore.Proofs.Query.RowOrder

/-! # Rows in the order of a key

Rows that all hold text under the wanted key come in the order of those texts, unless the store was
asked for the order. The key counts as it is spelled: rows are looked up by the name that the caller
gave, although a plan takes it for the sort key in any ASCII case.
-/
namespace ItemStore

namespace Row

def HoldTexts (field : String) (rows : List Row) : Prop :=
  ∀ row ∈ rows, ∃ text, Entries.find? row field = some (.string text)

/-- The texts that rows hold under a field never descend, or never ascend if the order is not
forward. -/
def InOrder (field : String) (forward : Bool) (rows : List Row) : Prop :=
  rows.Pairwise fun a b => ∀ s t, Entries.find? a field = some (.string s) →
    Entries.find? b field = some (.string t) → if forward then s ≤ t else t ≤ s

/-- The text under a field, empty for a row that holds none. -/
def textAt (field : String) (row : Row) : String :=
  ((Entries.find? row field).bind Value.text?).getD ""

section Texts
variable {field : String} {forward : Bool} {rows : List Row} {a b : Row} {s t : String}

theorem textAt_eq (h : Entries.find? a field = some (.string s)) : a.textAt field = s := by
  simp [textAt, h, Value.text?]

theorem sortValue?_of_text (h : Entries.find? a field = some (.string s)) :
    sortValue? a field = some (.string s) := by
  simp [sortValue?, h, Value.isNull]

theorem le_of_compareTexts_ne_lt (h : Value.compareTexts t s ≠ .lt) : s ≤ t := by
  apply String.not_lt.mp
  intro hlt
  apply h
  change compareOfLessAndEq t s = .lt
  rw [compareOfLessAndEq, if_pos hlt]

/-- Of two rows with texts, the later one does not precede the earlier one only where the texts are
in order. -/
theorem le_of_precedes_eq_false (ha : Entries.find? a field = some (.string s))
    (hb : Entries.find? b field = some (.string t))
    (h : precedes field (.ofForward forward) b a = false) : if forward then s ≤ t else t ≤ s := by
  rw [precedes, sortValue?_of_text ha, sortValue?_of_text hb] at h
  cases forward with
  | true =>
    have hlt : Value.compareTexts t s ≠ .lt := by
      simpa [Value.compare?, directed, Direction.ofForward] using h
    exact le_of_compareTexts_ne_lt hlt
  | false =>
    have hlt : Value.compareTexts s t ≠ .lt := by
      rw [Value.compareTexts_swap t s]
      simpa [Value.compare?, directed, Direction.ofForward] using h
    exact le_of_compareTexts_ne_lt hlt

theorem inOrder_sort (hfield : field ≠ "") (htexts : HoldTexts field rows) :
    InOrder field forward (sort rows field (.ofForward forward)) := by
  let inOrder (x y : Row) : Prop :=
    if forward then x.textAt field ≤ y.textAt field else y.textAt field ≤ x.textAt field
  obtain ⟨tagged, h, hrows⟩ := exists_arrangement_sort rows hfield (.ofForward forward)
  have hchain : (sort rows field (.ofForward forward)).IsChain inOrder := by
    rw [← hrows]
    refine h.settled.imp_of_mem_imp ?_
    intro x y hx hy hxy
    obtain ⟨s, hs⟩ := htexts x (h.perm_fst.mem_iff.mp hx)
    obtain ⟨t, ht⟩ := htexts y (h.perm_fst.mem_iff.mp hy)
    have hle := le_of_precedes_eq_false hs ht hxy
    rwa [← textAt_eq hs, ← textAt_eq ht] at hle
  have : Trans inOrder inOrder inOrder := by
    cases forward with
    | true => exact ⟨fun hxy hyz => String.le_trans hxy hyz⟩
    | false => exact ⟨fun hxy hyz => String.le_trans hyz hxy⟩
  refine (List.isChain_iff_pairwise.mp hchain).imp ?_
  intro x y hxy s t hs ht
  rw [← textAt_eq hs, ← textAt_eq ht]
  exact hxy

theorem InOrder.upTo (h : InOrder field forward rows) (limit : Option Nat) :
    InOrder field forward (Row.upTo rows limit) := by
  cases limit with
  | none => exact h
  | some n => exact h.sublist (List.take_sublist n rows)

end Texts

end Row

theorem Store.exists_answer_of_mem_rowsUpTo {store : Store} {m : Nat} {row : Row}
    (h : row ∈ store.rowsUpTo m) : ∃ k page, store.answer k = .ok page ∧ row ∈ page.rows := by
  obtain ⟨page, hpage, hrow⟩ := List.mem_flatMap.mp h
  obtain ⟨k, -, hk⟩ := List.mem_filterMap.mp hpage
  exact ⟨k, page, Failure.toOption_eq_some_iff.mp hk, hrow⟩

namespace Query
variable {query : Query} {name key : String} {limits : Limits} {store : Store} {forward : Bool}

/-- Rows that all hold text under the wanted key are shown in the order of those texts, in the
direction that was asked for, unless the statement that was sent orders them. -/
theorem run_inOrder {result : QueryResult} (asked : query.scanForward = some forward)
    (unsorted : query.explicitSort = none) (wanted : NativeOrder.WantedKey query store key)
    (htexts : ∀ k page, store.answer k = .ok page → Row.HoldTexts key page.rows)
    (h : (query.run name limits store).1 = .ok result) :
    result.nativeOrder = true ∨
      ∃ m arranged, arranged.Perm (store.rowsUpTo m) ∧ Row.InOrder key forward arranged ∧
        (query.run name limits store).2.requests.length = store.requests.length + m ∧
        Frame.ofRows name (Row.upTo arranged query.limit) query.formats = .ok result.frame ∧
        Row.InOrder key forward (Row.upTo arranged query.limit) := by
  obtain ⟨hblank, collected, hcollected, hframe, -, hnative, -⟩ := exists_collected_of_run h
  cases declined : (NativeOrder.plan query store).1.applied with
  | true => exact .inl (hnative.trans declined)
  | false =>
    right
    obtain ⟨m, hrequests, hcame⟩ := exists_requestsUpTo_collection query limits store
    have hrows := hcame collected hcollected
    have hlength : (query.run name limits store).2.requests.length = store.requests.length + m := by
      rw [run_of_not_blank hblank, hrequests, List.length_append, Collection.length_requestsUpTo]
    have hordered : Row.InOrder key forward (Row.sort (store.rowsUpTo m) key (.ofForward forward)) := by
      apply Row.inOrder_sort wanted.ne_empty
      intro row hrow
      obtain ⟨k, page, hpage, hmem⟩ := Store.exists_answer_of_mem_rowsUpTo hrow
      exact htexts k page hpage row hmem
    refine ⟨m, _, Row.sort_perm _ key (.ofForward forward), hordered, hlength, ?_,
      hordered.upTo query.limit⟩
    by_cases hnil : collected.rows = []
    · have hsorted : Row.sort [] key (.ofForward forward) = [] := List.perm_nil.mp (Row.sort_perm _ _ _)
      rw [hnil, shownRows_nil] at hframe
      rw [← hrows, hnil, hsorted]
      cases query.limit <;> simpa [Row.upTo] using hframe
    · rwa [(shownRows_of_wantedKey asked unsorted wanted declined hnil).2, hrows] at hframe

/-- A scan without a condition, whose two rows are shown in descending order of the sort key that
the caller names with a blank after it. -/
theorem run_inOrder_of_named_key :
    let rows : List Row := [[("sk", .string "b")], [("sk", .string "a")]]
    let store : Store := { answers := [.ok { rows }] }
    let query : Query := {
      statement := "SELECT * FROM \"T\"", sortKey := some "sk ", scanForward := some false }
    ∃ result, (query.run "A" {} store).1 = .ok result ∧ result.nativeOrder = false ∧
      ∃ m arranged, arranged.Perm (store.rowsUpTo m) ∧ Row.InOrder "sk" false arranged ∧
        Frame.ofRows "A" arranged query.formats = .ok result.frame := by
  intro rows store query
  have hserves : store.Serves {} [{ rows }] rows :=
    { nonempty := by simp
      answer := by
        intro k hk
        obtain rfl := Nat.lt_one_iff.mp hk
        rfl
      continued := by decide
      rows := rfl
      allowed := by
        intro k hk
        obtain rfl := Nat.lt_one_iff.mp hk
        exact ⟨rfl, by decide, by decide⟩ }
  have hplan : (NativeOrder.plan query store).1 =
      { statement := query.statement, fallback := some "sk" } := by decide +kernel
  have asked : query.scanForward = some false := rfl
  have unsorted : query.explicitSort = none := rfl
  have wanted : NativeOrder.WantedKey query store "sk" := by
    have htrimmed : Text.trimmed "sk " = "sk" := by decide +kernel
    rw [← htrimmed]
    exact .named rfl (by decide +kernel)
  have declined : (NativeOrder.plan query store).1.applied = false := by rw [hplan]
  have hsorted : Row.sort rows "sk" (.ofForward false) = rows := by
    have hkind : (Row.commonKind? rows "sk").isSome = true := by decide +kernel
    rw [Row.sort, if_neg (by decide), if_pos hkind]
    exact List.mergeSort_of_pairwise (by decide +kernel)
  have hshown : query.shownRows (NativeOrder.plan query store).1 rows = rows := by
    rw [(shownRows_of_wantedKey asked unsorted wanted declined (by simp [rows])).2, hsorted]
    rfl
  obtain ⟨result, h⟩ : ∃ result, (query.run "A" {} store).1 = .ok result := by
    rw [run_of_serves hserves (by decide) (by decide +kernel) rfl, resultOf_eq, hshown]
    exact ⟨_, rfl⟩
  have htexts : ∀ k page, store.answer k = .ok page → Row.HoldTexts "sk" page.rows := by
    intro k page hpage row hrow
    cases k with
    | zero =>
      obtain rfl := Except.ok.inj hpage
      rcases List.mem_pair.mp hrow with rfl | rfl <;> exact ⟨_, rfl⟩
    | succ k =>
      obtain rfl := Except.ok.inj hpage
      cases hrow
  have hnative : result.nativeOrder = false := by
    obtain ⟨-, collected, -, -, -, hnative, -⟩ := exists_collected_of_run h
    exact hnative.trans declined
  rcases run_inOrder asked unsorted wanted htexts h with happlied |
    ⟨m, arranged, hperm, hordered, -, hframe, -⟩
  · rw [hnative] at happlied
    cases happlied
  · exact ⟨result, h, hnative, m, arranged, hperm, hordered, hframe⟩

/-- A sort key that the caller spells in another case, in a statement that the store cannot order.
The plan takes the two spellings for one key, but the rows, which all hold text under the sort key,
are neither ordered by the store nor shown in its order. -/
theorem run_out_of_order_of_other_case :
    let table : Table := { name := "T", keys := [⟨"pk", .partition⟩, ⟨"sk", .sort⟩] }
    let rows : List Row := [[("sk", .string "b")], [("sk", .string "a")]]
    let store : Store := { tables := [table], answers := [.ok { rows }] }
    let query : Query := {
      statement := "SELECT * FROM \"T\"", sortKey := some "SK", scanForward := some true }
    Statement.source? query.statement = some ⟨"T", none⟩ ∧
      (store.describe "T").1 = .ok table ∧ table.keySchema none = .ok ⟨some "pk", some "sk"⟩ ∧
      query.explicitSort = none ∧ query.requestedSortKey = some "SK" ∧
      Text.equalIgnoringCase "SK" "sk" = true ∧ Row.HoldTexts "sk" rows ∧
      ((query.run "A" {} store).1.toOption.map fun result =>
        (result.nativeOrder, result.frame.columns.map fun column =>
          (column.name, match column.data with
            | .string texts => texts
            | _ => []))) = some (false, [("sk", [some "b", some "a"])]) ∧
      ¬ "b" ≤ "a" := by
  intro table rows store query
  refine ⟨by decide +kernel, rfl, rfl, rfl, by decide +kernel, by decide +kernel, ?_,
    by decide +kernel, by decide⟩
  intro row hrow
  rcases List.mem_pair.mp hrow with rfl | rfl <;> exact ⟨_, rfl⟩

end Query

end ItemStore
