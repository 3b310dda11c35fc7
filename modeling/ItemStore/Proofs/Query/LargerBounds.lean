import ItemStore.Proofs.Query.CollectionOutcome

/-! # Larger bounds

Larger bounds only add rows at the end of a collection. Every page that is asked for within the
smaller bounds is asked for within the larger ones too, and from the first row on nothing that a
collection meets later makes it fail.
-/
namespace ItemStore

structure Limits.AtMost (limits larger : Limits) : Prop where
  pages : limits.maxPages ≤ larger.maxPages
  items : limits.maxItems ≤ larger.maxItems
  duration : limits.maxDurationMs ≤ larger.maxDurationMs

/-- The limit of rows is raised, taken away or kept. -/
def Limits.Raises (limit wider : Option Nat) : Prop :=
  ∀ m, wider = some m → ∃ n, limit = some n ∧ n ≤ m

theorem Store.rowsUpTo_prefix {store : Store} {j k : Nat} (h : j ≤ k) :
    store.rowsUpTo j <+: store.rowsUpTo k := by
  induction h with
  | refl => exact List.prefix_refl _
  | step _ ih =>
    apply ih.trans
    rw [Store.rowsUpTo, Store.rowsUpTo, Store.pagesUpTo_succ, List.flatMap_append]
    exact List.prefix_append _ _

namespace Limits
variable {limits larger : Limits} {limit wider : Option Nat} {store : Store} {k : Nat}

theorem raises_none (limit : Option Nat) : Raises limit none := by
  intro m hm
  cases hm

theorem AtMost.refl (limits : Limits) : limits.AtMost limits :=
  ⟨Nat.le_refl _, Nat.le_refl _, Nat.le_refl _⟩

theorem AtMost.budget_le (h : limits.AtMost larger) : limits.budget ≤ larger.budget :=
  Nat.mul_le_mul_right _ h.duration

theorem Allows.mono (h : limits.AtMost larger) (allowed : limits.Allows store k) :
    larger.Allows store k where
  notCancelled := allowed.notCancelled
  inTime := Nat.le_trans allowed.inTime h.budget_le
  pagesLeft := Nat.lt_of_lt_of_le allowed.pagesLeft h.pages

theorem Wants.mono (h : limits.AtMost larger) (hlimit : Raises limit wider)
    (wants : limits.Wants limit store k) : larger.Wants wider store k where
  belowCeiling := Nat.lt_of_lt_of_le wants.belowCeiling h.items
  belowLimit m hm := by
    obtain ⟨n, hn, hle⟩ := hlimit m hm
    exact Nat.lt_of_lt_of_le (wants.belowLimit n hn) hle
  followed := wants.followed

/-- While there are no rows, only the lack of a further page is a reason not to want one. -/
theorem Wants.of_no_rows (wants : larger.Wants wider store k) (hrows : store.rowsUpTo k = [])
    (hitems : limits.maxItems ≠ 0) (hlimit : limit ≠ some 0) : limits.Wants limit store k where
  belowCeiling := by
    rw [hrows]
    exact Nat.pos_of_ne_zero hitems
  belowLimit n hn := by
    rw [hrows]
    apply Nat.pos_of_ne_zero
    rintro rfl
    exact hlimit hn
  followed := wants.followed

end Limits

namespace Collection
variable {statement : String} {limits larger : Limits} {limit wider : Option Nat} {store : Store}
  {k : Nat}

theorem Reaches.mono (h : limits.AtMost larger) (hlimit : Limits.Raises limit wider)
    (reached : Reaches limits limit store k) : Reaches larger wider store k := by
  intro j hj
  obtain ⟨allowed, wants⟩ := reached j hj
  exact ⟨allowed.mono h, wants.mono h hlimit⟩

theorem Reaches.succ (reached : Reaches limits limit store k) (allowed : limits.Allows store k)
    (wants : limits.Wants limit store (k + 1)) : Reaches limits limit store (k + 1) := by
  intro j hj
  by_cases hjk : j = k
  · subst hjk
    exact ⟨allowed, wants⟩
  · exact reached j (by omega)

/-- A collection does not end before a page that it reaches. -/
theorem Reaches.le_of_not_goes_on {n : Nat} (reached : Reaches limits limit store k)
    (hend : ¬ (limits.Allows store n ∧ limits.Wants limit store (n + 1))) : k ≤ n := by
  by_contra hlt
  exact hend (reached n (by omega))

/-- A collection that reaches a page with rows in hand succeeds, and it keeps these rows. -/
theorem exists_collected_of_rows (statement : String) (reached : Reaches limits limit store k)
    (hrows : store.rowsUpTo k ≠ []) :
    ∃ c, (collect statement limit limits store).1 = .ok c ∧ store.rowsUpTo k <+: c.rows := by
  obtain ⟨n, -, ⟨i, interrupted, hresult⟩ | ⟨stop, stopped, hresult⟩⟩ :=
    collect_cases statement limit limits store
  · have hkn : k ≤ n := reached.le_of_not_goes_on interrupted.not_goes_on
    have hkeeps : store.rowsUpTo k <+: store.rowsUpTo n := Store.rowsUpTo_prefix hkn
    have hne : store.rowsUpTo n ≠ [] := by
      intro hnil
      rw [hnil] at hkeeps
      exact hrows (List.prefix_nil.mp hkeeps)
    rw [outcome_of_rows_ne_nil hne] at hresult
    exact ⟨_, hresult, hkeeps⟩
  · have hkn : k ≤ n := by
      apply reached.le_of_not_goes_on
      rintro ⟨-, wants⟩
      rw [stop?_progressAt_eq_none_iff.mpr wants] at stopped
      cases stopped
    exact ⟨_, hresult, Store.rowsUpTo_prefix (by omega)⟩

/-- A page that comes in either is the last one, or leads on with its rows kept. There must be rows
by then if a further page is wanted, as the way to that page may fail. -/
theorem exists_collected_of_page (statement : String) (reached : Reaches limits limit store k)
    (allowed : limits.Allows store k) {page : Page} (answer : store.answer k = .ok page)
    (hrows : limits.Wants limit store (k + 1) → store.rowsUpTo (k + 1) ≠ []) :
    ∃ c, (collect statement limit limits store).1 = .ok c ∧
      store.rowsUpTo (k + 1) <+: c.rows ∧
      (¬ limits.Wants limit store (k + 1) → c.rows = store.rowsUpTo (k + 1)) := by
  cases hstop : (progressAt store (k + 1)).stop? limits limit with
  | some stop =>
    exact ⟨_, collect_of_stop? statement reached allowed answer hstop, List.prefix_refl _,
      fun _ => rfl⟩
  | none =>
    have wants : limits.Wants limit store (k + 1) := stop?_progressAt_eq_none_iff.mp hstop
    obtain ⟨c, hc, hkeeps⟩ :=
      exists_collected_of_rows statement (reached.succ allowed wants) (hrows wants)
    exact ⟨c, hc, hkeeps, fun hnot => absurd wants hnot⟩

/-- Within larger bounds a collection that succeeded succeeds again and begins with the same rows. -/
theorem exists_larger_collected (h : limits.AtMost larger) (hlimit : Limits.Raises limit wider)
    (hpositive : limit ≠ some 0) (hitems : limits.maxItems ≠ 0) {c : Collection}
    (hc : (collect statement limit limits store).1 = .ok c) :
    ∃ d, (collect statement wider larger store).1 = .ok d ∧ c.rows <+: d.rows := by
  obtain ⟨k, reached, hends⟩ := exists_ends_collect statement limit limits store
  have hreached : Reaches larger wider store k := reached.mono h hlimit
  generalize collect statement limit limits store = result at hends hc
  -- An interrupted collection that succeeded has rows, and those keep the larger one from failing.
  have hinterrupted (i : Interruption) (hi : i.outcome (progressAt store k) = .ok c) :
      ∃ d, (collect statement wider larger store).1 = .ok d ∧ c.rows <+: d.rows := by
    have hrows : store.rowsUpTo k ≠ [] := by
      intro hnil
      rw [outcome_of_rows_eq_nil hnil] at hi
      cases hi
    rw [outcome_of_rows_ne_nil hrows] at hi
    cases hi
    exact exists_collected_of_rows statement hreached hrows
  cases hends with
  | before _ _ => exact hinterrupted _ hc
  | failed _ _ _ => exact hinterrupted _ hc
  | done allowed answer stopped =>
    cases hc
    have hrows : larger.Wants wider store (k + 1) → store.rowsUpTo (k + 1) ≠ [] := by
      intro wants hnil
      rw [stop?_progressAt_eq_none_iff.mpr (wants.of_no_rows hnil hitems hpositive)] at stopped
      cases stopped
    obtain ⟨d, hd, hkeeps, -⟩ :=
      exists_collected_of_page statement hreached (allowed.mono h) answer hrows
    exact ⟨d, hd, hkeeps⟩

/-- A page after which only the limit is a reason to stop has brought enough rows. -/
theorem le_length_of_limit_reached {n : Nat} (wants : limits.Wants none store k)
    (hstop : ¬ limits.Wants (some n) store k) : n ≤ (store.rowsUpTo k).length := by
  by_contra hlt
  apply hstop
  refine ⟨wants.belowCeiling, ?_, wants.followed⟩
  intro m hm
  cases hm
  omega

/-- Up to the limit, a collection with a limit comes to what the one without comes to: the same
rows or the same failure. -/
theorem collect_upTo_limit (statement : String) (limits : Limits) (store : Store) {n : Nat}
    (hn : n ≠ 0) :
    ((collect statement (some n) limits store).1.map fun c => Row.upTo c.rows (some n)) =
      (collect statement none limits store).1.map fun c => c.rows.take n := by
  obtain ⟨k, reached, hends⟩ := exists_ends_collect statement (some n) limits store
  have hreached : Reaches limits none store k :=
    reached.mono (.refl limits) (Limits.raises_none (some n))
  generalize collect statement (some n) limits store = result at hends
  cases hends with
  | before interrupted _ | failed interrupted _ _ =>
    rw [collect_of_interrupts statement hreached interrupted]
    rfl
  | done allowed answer stopped =>
    have hstop : ¬ limits.Wants (some n) store (k + 1) := by
      rw [← stop?_progressAt_eq_none_iff, stopped]
      simp
    have hrows : limits.Wants none store (k + 1) → store.rowsUpTo (k + 1) ≠ [] := by
      intro wants hnil
      have hle := le_length_of_limit_reached wants hstop
      rw [hnil] at hle
      exact hn (Nat.le_zero.mp hle)
    obtain ⟨c, hc, hkeeps, hlast⟩ :=
      exists_collected_of_page statement hreached allowed answer hrows
    rw [hc]
    apply congrArg Except.ok
    by_cases wants : limits.Wants none store (k + 1)
    · obtain ⟨later, hlater⟩ := hkeeps
      simp only [Row.upTo, ← hlater]
      rw [List.take_append_of_le_length (le_length_of_limit_reached wants hstop)]
    · simp only [Row.upTo, hlast wants]

/-- Raising any bound of a collection only extends what it returns. Where the limits allow a row at
all, a collection that succeeds within them succeeds within larger ones, and what it returned are
the leading rows of what it returns there. Cut to its limit, a collection returns the leading rows
of the one without a limit. -/
theorem collect_extends (h : limits.AtMost larger) (hlimit : Limits.Raises limit wider)
    (hpositive : limit ≠ some 0) (hitems : limits.maxItems ≠ 0) (statement : String)
    (store : Store) :
    (∀ c, (collect statement limit limits store).1 = .ok c →
      ∃ d, (collect statement wider larger store).1 = .ok d ∧ c.rows <+: d.rows) ∧
    ∀ n, limit = some n →
      ((collect statement limit limits store).1.map fun c => Row.upTo c.rows limit) =
        (collect statement none limits store).1.map fun c => c.rows.take n := by
  constructor
  · intro c hc
    exact exists_larger_collected h hlimit hpositive hitems hc
  · intro n hn
    subst hn
    apply collect_upTo_limit
    rintro rfl
    exact hpositive rfl

/-- One row is asked for and comes in on the second page; without the limit the collection meets a
failure on the third page and keeps the rows of the second. -/
theorem collect_extends_of_late_failure :
    let store : Store := {
      answers := [.ok { token := some "1" },
        .ok { rows := [[("k", .string "a")], [("k", .string "b")]], token := some "2" },
        .error (.remote "gone")] }
    (∃ d, (collect "SELECT * FROM T" none {} store).1 = .ok d ∧
      [[("k", .string "a")], [("k", .string "b")]] <+: d.rows) ∧
    ((collect "SELECT * FROM T" none {} store).1.map fun c => c.rows.take 1) =
      .ok [[("k", .string "a")]] := by
  intro store
  have hmost : Limits.AtMost { maxPages := 2, maxDurationMs := 1 } {} :=
    ⟨by decide, by decide, by decide⟩
  obtain ⟨hlarger, -⟩ := collect_extends hmost (Limits.raises_none (some 1)) (by decide) (by decide)
    "SELECT * FROM T" store
  have hone : (collect "SELECT * FROM T" (some 1) { maxPages := 2, maxDurationMs := 1 } store).1 =
      .ok ⟨[[("k", .string "a")], [("k", .string "b")]], 2, .limitReached⟩ := rfl
  refine ⟨hlarger _ hone, ?_⟩
  have hdefault := (collect_extends (.refl {}) (Limits.raises_none (some 1)) (by decide) (by decide)
    "SELECT * FROM T" store).2 1 rfl
  rw [← hdefault]
  rfl

end Collection

end ItemStore
