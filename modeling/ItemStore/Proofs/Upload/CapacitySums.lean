import ItemStore.Proofs.Entries
import ItemStore.Upload.CapacityTotals
import Mathlib.Data.List.Sort
import Mathlib.Data.String.Basic

/-! # What the capacity totals add up

There is one total for each table that is reported, in ascending order of the names, and each adds
up the reports of its own table in the order in which they come. So only the order of the reports of
one table can show in its sums, and no order shows in the number of throttled statements.
-/
namespace ItemStore
open Number (Binary64)

def Capacity.tableName (report : Capacity) : String := report.table.getD ""

/-- The report names the table and says that exactly nothing was consumed. -/
def Capacity.Throttles (report : Capacity) (table : String) : Prop :=
  report.table = some table ∧ report.units.any Binary64.isZero = true

instance (report : Capacity) (table : String) : Decidable (report.Throttles table) :=
  inferInstanceAs (Decidable (_ ∧ _))

def Number.Binary64.sum (values : List Binary64) : Binary64 := values.foldl .add .zero

namespace Upload

variable {report : Capacity} {reports others : List Capacity} {t : CapacityTotal}
  {totals rest : List CapacityTotal} {table : String}

/-! ### One more report -/

@[simp] theorem CapacityTotal.table_add (t : CapacityTotal) (report : Capacity) :
    (t.add report).table = t.table := rfl

theorem countReport_of_eq (h : report.tableName = t.table) :
    countReport report (t :: rest) = t.add report :: rest := by
  rw [countReport]
  exact if_pos h

theorem countReport_of_lt (h : report.tableName < t.table) :
    countReport report (t :: rest) =
      ({ table := report.tableName } : CapacityTotal).add report :: t :: rest := by
  rw [countReport]
  exact (if_neg (ne_of_lt h)).trans (if_pos h)

theorem countReport_of_gt (h : t.table < report.tableName) :
    countReport report (t :: rest) = t :: countReport report rest := by
  rw [countReport]
  exact (if_neg (ne_of_gt h)).trans (if_neg (not_lt_of_gt h))

def tablesOf (totals : List CapacityTotal) : List String := totals.map CapacityTotal.table

/-- The total of a table, which is empty for a table that has none. -/
def totalIn (totals : List CapacityTotal) (table : String) : CapacityTotal :=
  (totals.find? (·.table = table)).getD { table }

theorem totalIn_cons (t : CapacityTotal) (rest : List CapacityTotal) (table : String) :
    totalIn (t :: rest) table = if t.table = table then t else totalIn rest table := by
  by_cases htable : t.table = table <;> simp [totalIn, htable]

theorem totalIn_of_not_mem (h : table ∉ tablesOf totals) : totalIn totals table = { table } := by
  have hnone : totals.find? (·.table = table) = none := by
    rw [List.find?_eq_none]
    intro t ht htable
    obtain rfl : t.table = table := by simpa using htable
    exact h (List.mem_map_of_mem ht)
  rw [totalIn, hnone]
  rfl

theorem mem_tablesOf_countReport (report : Capacity) (totals : List CapacityTotal) :
    table ∈ tablesOf (countReport report totals) ↔
      table = report.tableName ∨ table ∈ tablesOf totals := by
  induction totals with
  | nil => simp [tablesOf, countReport, Capacity.tableName]
  | cons t rest ih =>
    rcases lt_trichotomy report.tableName t.table with h | h | h
    · rw [countReport_of_lt h]
      simp [tablesOf]
    · rw [countReport_of_eq h]
      simp [tablesOf, h]
    · rw [countReport_of_gt h]
      simp only [tablesOf, List.map_cons, List.mem_cons] at ih ⊢
      rw [ih]
      exact or_left_comm

/-- The tables stay in ascending order. -/
theorem ascending_countReport (report : Capacity) (h : (tablesOf totals).Pairwise (· < ·)) :
    (tablesOf (countReport report totals)).Pairwise (· < ·) := by
  induction totals with
  | nil => exact List.pairwise_singleton _ _
  | cons t rest ih =>
    obtain ⟨hfirst, hrest⟩ := List.pairwise_cons.mp h
    rcases lt_trichotomy report.tableName t.table with hlt | heq | hgt
    · rw [countReport_of_lt hlt]
      refine List.pairwise_cons.mpr ⟨?_, h⟩
      intro later hlater
      rcases List.mem_cons.mp hlater with rfl | hlater
      · exact hlt
      · exact lt_trans hlt (hfirst later hlater)
    · rw [countReport_of_eq heq]
      exact h
    · rw [countReport_of_gt hgt]
      refine List.pairwise_cons.mpr ⟨?_, ih hrest⟩
      intro later hlater
      rcases (mem_tablesOf_countReport report rest).mp hlater with rfl | hlater
      · exact hgt
      · exact hfirst later hlater

theorem totalIn_countReport (report : Capacity) (h : (tablesOf totals).Pairwise (· < ·))
    (table : String) :
    totalIn (countReport report totals) table =
      if report.tableName = table then (totalIn totals table).add report
      else totalIn totals table := by
  induction totals with
  | nil =>
    rw [countReport, totalIn_cons]
    by_cases htable : report.tableName = table
    · subst htable
      rfl
    · rw [if_neg htable]
      exact if_neg htable
  | cons t rest ih =>
    obtain ⟨hfirst, hrest⟩ := List.pairwise_cons.mp h
    rcases lt_trichotomy report.tableName t.table with hlt | heq | hgt
    · rw [countReport_of_lt hlt, totalIn_cons, CapacityTotal.table_add]
      by_cases htable : report.tableName = table
      · have hnew : table ∉ tablesOf (t :: rest) := by
          rw [← htable]
          intro hmem
          rcases List.mem_cons.mp hmem with hmem | hmem
          · exact ne_of_lt hlt hmem
          · exact lt_asymm hlt (hfirst _ hmem)
        rw [if_pos htable, if_pos htable, totalIn_of_not_mem hnew, htable]
      · rw [if_neg htable, if_neg htable]
    · rw [countReport_of_eq heq, totalIn_cons, totalIn_cons, CapacityTotal.table_add, heq]
      by_cases htable : t.table = table <;> simp only [htable, if_true, if_false]
    · rw [countReport_of_gt hgt, totalIn_cons, totalIn_cons, ih hrest]
      by_cases hself : t.table = table
      · rw [if_pos hself, if_pos hself, if_neg (hself ▸ ne_of_gt hgt)]
      · rw [if_neg hself, if_neg hself]

/-! ### All reports -/

def reportsOf (table : String) (reports : List Capacity) : List Capacity :=
  reports.filter (·.tableName = table)

theorem capacityTotals_concat (reports : List Capacity) (report : Capacity) :
    capacityTotals (reports ++ [report]) = countReport report (capacityTotals reports) := by
  rw [capacityTotals, List.foldl_append]
  rfl

theorem mem_tablesOf_capacityTotals :
    table ∈ tablesOf (capacityTotals reports) ↔ ∃ report ∈ reports, report.tableName = table := by
  induction reports using List.reverseRecOn with
  | nil => simp [capacityTotals, tablesOf]
  | append_singleton reports report ih =>
    rw [capacityTotals_concat, mem_tablesOf_countReport, ih]
    simp [or_comm, eq_comm]

theorem ascending_capacityTotals (reports : List Capacity) :
    (tablesOf (capacityTotals reports)).Pairwise (· < ·) := by
  induction reports using List.reverseRecOn with
  | nil => exact List.Pairwise.nil
  | append_singleton reports report ih =>
    rw [capacityTotals_concat]
    exact ascending_countReport report ih

theorem totalIn_capacityTotals (reports : List Capacity) (table : String) :
    totalIn (capacityTotals reports) table =
      (reportsOf table reports).foldl CapacityTotal.add { table } := by
  induction reports using List.reverseRecOn with
  | nil => rfl
  | append_singleton reports report ih =>
    rw [capacityTotals_concat, totalIn_countReport report (ascending_capacityTotals reports), ih,
      reportsOf, reportsOf, List.filter_append, List.foldl_append]
    by_cases htable : report.tableName = table <;> simp [htable]

theorem foldl_add (t : CapacityTotal) (reports : List Capacity) :
    reports.foldl CapacityTotal.add t =
      { table := t.table
        units := (reports.map fun r => r.units.getD .zero).foldl .add t.units
        readUnits := (reports.map fun r => r.readUnits.getD .zero).foldl .add t.readUnits
        writeUnits := (reports.map fun r => r.writeUnits.getD .zero).foldl .add t.writeUnits
        throttled := t.throttled +
          reports.countP fun r => r.table.isSome && r.units.any Binary64.isZero } := by
  induction reports generalizing t with
  | nil => rfl
  | cons report rest ih =>
    rw [List.foldl_cons, ih, List.countP_cons]
    simp only [CapacityTotal.add, List.map_cons, List.foldl_cons, CapacityTotal.mk.injEq, true_and]
    omega

/-- Of the reports of a table those that have no name never count as throttled. -/
theorem countP_reportsOf (table : String) (reports : List Capacity) :
    ((reportsOf table reports).countP fun r => r.table.isSome && r.units.any Binary64.isZero) =
      reports.countP (·.Throttles table) := by
  rw [reportsOf, List.countP_filter]
  refine List.countP_congr fun report _ => ?_
  cases htable : report.table <;> simp [Capacity.Throttles, Capacity.tableName, htable, and_comm]

theorem totalIn_of_mem (distinct : (tablesOf totals).Nodup) (h : t ∈ totals) :
    totalIn totals t.table = t := by
  rw [totalIn, find?_key_of_mem distinct h]
  rfl

def sumsOf (table : String) (reports : List Capacity) : CapacityTotal where
  table := table
  units := Binary64.sum ((reportsOf table reports).map fun r => r.units.getD .zero)
  readUnits := Binary64.sum ((reportsOf table reports).map fun r => r.readUnits.getD .zero)
  writeUnits := Binary64.sum ((reportsOf table reports).map fun r => r.writeUnits.getD .zero)
  throttled := reports.countP (·.Throttles table)

theorem eq_sumsOf_of_mem (h : t ∈ capacityTotals reports) : t = sumsOf t.table reports := by
  have hdistinct : (tablesOf (capacityTotals reports)).Nodup :=
    (ascending_capacityTotals reports).nodup
  have htotal := totalIn_of_mem hdistinct h
  rw [totalIn_capacityTotals, foldl_add, countP_reportsOf, Nat.zero_add] at htotal
  exact htotal.symm

theorem capacityTotals_eq_map (reports : List Capacity) :
    capacityTotals reports =
      (tablesOf (capacityTotals reports)).map fun table => sumsOf table reports := by
  rw [tablesOf, List.map_map]
  refine (List.map_id _).symm.trans (List.map_congr_left fun t ht => ?_)
  exact eq_sumsOf_of_mem ht

/-- Reports of the same tables have totals of the same tables, in the same order. -/
theorem tablesOf_capacityTotals_eq
    (h : ∀ table, (∃ report ∈ others, report.tableName = table) ↔
      ∃ report ∈ reports, report.tableName = table) :
    tablesOf (capacityTotals others) = tablesOf (capacityTotals reports) := by
  refine (ascending_capacityTotals others).eq_of_mem_iff (ascending_capacityTotals reports) ?_
  intro table
  rw [mem_tablesOf_capacityTotals, mem_tablesOf_capacityTotals, h]

theorem sumsOf_congr (h : reportsOf table others = reportsOf table reports) :
    sumsOf table others = sumsOf table reports := by
  rw [sumsOf, sumsOf, h, ← countP_reportsOf, ← countP_reportsOf, h]

theorem exists_report_iff :
    (∃ report ∈ reports, report.tableName = table) ↔ reportsOf table reports ≠ [] := by
  simp [reportsOf]

/-- How the reports of different tables are mixed does not show. -/
theorem capacityTotals_congr
    (h : ∀ table, reportsOf table others = reportsOf table reports) :
    capacityTotals others = capacityTotals reports := by
  have htables : tablesOf (capacityTotals others) = tablesOf (capacityTotals reports) := by
    refine tablesOf_capacityTotals_eq fun table => ?_
    rw [exists_report_iff, exists_report_iff, h]
  calc capacityTotals others
    _ = (tablesOf (capacityTotals others)).map fun table => sumsOf table others :=
      capacityTotals_eq_map others
    _ = (tablesOf (capacityTotals reports)).map fun table => sumsOf table reports := by
      rw [htables]
      exact List.map_congr_left fun table _ => sumsOf_congr (h table)
    _ = capacityTotals reports := (capacityTotals_eq_map reports).symm

/-- Whatever the order of the reports, as many of each table are throttled. -/
theorem throttled_of_perm (h : others.Perm reports) :
    (capacityTotals others).map (fun t => (t.table, t.throttled)) =
      (capacityTotals reports).map fun t => (t.table, t.throttled) := by
  have htables : tablesOf (capacityTotals others) = tablesOf (capacityTotals reports) :=
    tablesOf_capacityTotals_eq fun table => by simp only [h.mem_iff]
  rw [capacityTotals_eq_map others, capacityTotals_eq_map reports, htables, List.map_map,
    List.map_map]
  refine List.map_congr_left fun table _ => ?_
  exact congrArg (Prod.mk table) (h.countP_eq _)

/-- There is one total for each table that is reported, in strictly ascending order of the names,
with a report that has no name counting for the empty one. Each total adds up the reports of its
table alone, in their order, and counts those that name the table and say that nothing was consumed.
So mixing the reports of different tables in another way changes nothing, and no order changes the
counts. -/
theorem capacityTotals_sum_tables (reports : List Capacity) :
    (tablesOf (capacityTotals reports)).Pairwise (· < ·) ∧
    (∀ table, table ∈ tablesOf (capacityTotals reports) ↔
      ∃ report ∈ reports, report.table.getD "" = table) ∧
    (∀ t ∈ capacityTotals reports,
      t.units = .sum ((reportsOf t.table reports).map fun r => r.units.getD .zero) ∧
      t.readUnits = .sum ((reportsOf t.table reports).map fun r => r.readUnits.getD .zero) ∧
      t.writeUnits = .sum ((reportsOf t.table reports).map fun r => r.writeUnits.getD .zero) ∧
      t.throttled = reports.countP (·.Throttles t.table)) ∧
    (∀ others, (∀ table, reportsOf table others = reportsOf table reports) →
      capacityTotals others = capacityTotals reports) ∧
    ∀ others, others.Perm reports →
      (capacityTotals others).map (fun t => (t.table, t.throttled)) =
        (capacityTotals reports).map fun t => (t.table, t.throttled) := by
  refine ⟨ascending_capacityTotals reports, fun table => mem_tablesOf_capacityTotals, ?_,
    fun others => capacityTotals_congr, fun others => throttled_of_perm⟩
  intro t ht
  have hsums := eq_sumsOf_of_mem ht
  exact ⟨congrArg CapacityTotal.units hsums, congrArg CapacityTotal.readUnits hsums,
    congrArg CapacityTotal.writeUnits hsums, congrArg CapacityTotal.throttled hsums⟩

/-- Two reports of one table around one of another table and around one without a name. -/
theorem capacityTotals_sum_tables_of_mixed :
    let first : Capacity := { table := some "b", units := some (.ofInt 1) }
    let second : Capacity := { table := some "b", units := some .zero }
    let other : Capacity := { table := some "a", units := some (.ofInt 2) }
    let unnamed : Capacity := { units := some .zero }
    let reports := [first, other, unnamed, second]
    tablesOf (capacityTotals reports) = ["", "a", "b"] ∧
      capacityTotals [unnamed, first, second, other] = capacityTotals reports ∧
      ∃ t ∈ capacityTotals reports, t.table = "b" ∧ t.units = .sum [.ofInt 1, .zero] ∧
        t.throttled = 1 := by
  intro first second other unnamed reports
  obtain ⟨-, -, hsums, hmixed, -⟩ := capacityTotals_sum_tables reports
  have htables : tablesOf (capacityTotals reports) = ["", "a", "b"] := by decide +kernel
  have hmem : "b" ∈ tablesOf (capacityTotals reports) := by simp [htables]
  obtain ⟨t, ht, hb⟩ := List.mem_map.mp hmem
  obtain ⟨hunits, -, -, hthrottled⟩ := hsums t ht
  refine ⟨htables, hmixed _ fun table => ?_, t, ht, hb, ?_, ?_⟩
  · simp only [reportsOf, Capacity.tableName, reports, first, second, other, unnamed,
      List.filter_cons, List.filter_nil, Option.getD_some, Option.getD_none]
    by_cases hb : "b" = table
    · simp [← hb]
    · by_cases ha : "a" = table
      · simp [← ha]
      · by_cases hempty : table = "" <;> simp [ha, hb, hempty]
  · rw [hunits, hb]
    simp [reportsOf, Capacity.tableName, reports, first, second, other, unnamed]
  · rw [hthrottled, hb]
    decide +kernel

end Upload

end ItemStore
