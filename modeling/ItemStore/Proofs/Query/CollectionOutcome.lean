import ItemStore.Proofs.Query.CollectionRun

/-! # What a collection comes to

An interruption fails a collection only while there are no rows; with rows in hand it becomes the
reason to stop. Which of several interruptions counts is the first one on the way, and no collection
that has what it wants is interrupted afterwards.
-/
namespace ItemStore

namespace Limits
variable {limits : Limits} {limit : Option Nat} {store : Store} {k : Nat} {i j : Interruption}

theorem Interrupts.answer_ne_ok (h : limits.Interrupts store k i) (allowed : limits.Allows store k)
    (page : Page) : store.answer k ≠ .ok page := by
  intro hanswer
  cases h with
  | cancelled seen => simp [allowed.notCancelled] at seen
  | deadline _ late => exact Nat.not_lt.mpr allowed.inTime late
  | pageCeiling _ _ ceiling => exact Nat.not_lt.mpr ceiling allowed.pagesLeft
  | cancelledFetch _ failed _ => simp [hanswer] at failed
  | failedFetch _ failed _ => simp [hanswer] at failed

theorem Interrupts.not_goes_on (h : limits.Interrupts store k i) :
    ¬ (limits.Allows store k ∧ limits.Wants limit store (k + 1)) := by
  rintro ⟨allowed, wants⟩
  obtain ⟨page, token, hanswer, -⟩ := Collection.exists_page_of_wants wants
  exact h.answer_ne_ok allowed page hanswer

/-- At one page there is one interruption, as each one counts only where those before it do not. -/
theorem Interrupts.unique (hi : limits.Interrupts store k i) (hj : limits.Interrupts store k j) :
    i = j := by
  cases hi <;> cases hj <;> first
    | rfl
    | grind [Limits.Allows]

end Limits

namespace Collection
variable {statement : String} {limits : Limits} {limit : Option Nat} {store : Store} {k n : Nat}

theorem Ends.not_goes_on {result : Except Failure Collection × Store}
    (h : Ends statement limit limits store k result) :
    ¬ (limits.Allows store k ∧ limits.Wants limit store (k + 1)) := by
  cases h with
  | before interrupted _ => exact interrupted.not_goes_on
  | failed interrupted _ _ => exact interrupted.not_goes_on
  | done _ _ stopped =>
    rintro ⟨-, wants⟩
    rw [stop?_progressAt_eq_none_iff.mpr wants] at stopped
    cases stopped

theorem eq_of_reaches (hk : Reaches limits limit store k) (hn : Reaches limits limit store n)
    (endk : ¬ (limits.Allows store k ∧ limits.Wants limit store (k + 1)))
    (endn : ¬ (limits.Allows store n ∧ limits.Wants limit store (n + 1))) : k = n := by
  rcases Nat.lt_trichotomy k n with h | h | h
  · exact absurd (hn k h) endk
  · exact h
  · exact absurd (hk n h) endn

/-- An interruption at a page that is reached decides the collection. -/
theorem collect_of_interrupts (statement : String) {i : Interruption}
    (reached : Reaches limits limit store k) (interrupted : limits.Interrupts store k i) :
    (collect statement limit limits store).1 = i.outcome (progressAt store k) := by
  obtain ⟨n, hreaches, hends⟩ := exists_ends_collect statement limit limits store
  obtain rfl := eq_of_reaches reached hreaches interrupted.not_goes_on hends.not_goes_on
  generalize collect statement limit limits store = result at hends
  cases hends with
  | before other _ => rw [interrupted.unique other]
  | failed other _ _ => rw [interrupted.unique other]
  | done allowed answer _ => exact absurd answer (interrupted.answer_ne_ok allowed _)

/-- A page after which nothing more is wanted decides the collection. -/
theorem collect_of_stop? (statement : String) {page : Page} {stop : StopReason}
    (reached : Reaches limits limit store k) (allowed : limits.Allows store k)
    (answer : store.answer k = .ok page)
    (stopped : (progressAt store (k + 1)).stop? limits limit = some stop) :
    (collect statement limit limits store).1 = .ok ⟨store.rowsUpTo (k + 1), k + 1, stop⟩ := by
  obtain ⟨n, hreaches, hends⟩ := exists_ends_collect statement limit limits store
  have hend : ¬ (limits.Allows store k ∧ limits.Wants limit store (k + 1)) := by
    rw [← stop?_progressAt_eq_none_iff, stopped]
    simp
  obtain rfl := eq_of_reaches reached hreaches hend hends.not_goes_on
  generalize collect statement limit limits store = result at hends
  cases hends with
  | before _ notAllowed => exact absurd allowed notAllowed
  | failed interrupted _ _ => exact absurd answer (interrupted.answer_ne_ok allowed _)
  | done _ _ other =>
    rw [stopped] at other
    cases other
    rfl

theorem collect_cases (statement : String) (limit : Option Nat) (limits : Limits) (store : Store) :
    ∃ k, Reaches limits limit store k ∧
      ((∃ i, limits.Interrupts store k i ∧
        (collect statement limit limits store).1 = i.outcome (progressAt store k)) ∨
      ∃ stop, (progressAt store (k + 1)).stop? limits limit = some stop ∧
        (collect statement limit limits store).1 = .ok ⟨store.rowsUpTo (k + 1), k + 1, stop⟩) := by
  obtain ⟨k, reached, hends⟩ := exists_ends_collect statement limit limits store
  refine ⟨k, reached, ?_⟩
  generalize collect statement limit limits store = result at hends ⊢
  cases hends with
  | before interrupted _ => exact .inl ⟨_, interrupted, rfl⟩
  | failed interrupted _ _ => exact .inl ⟨_, interrupted, rfl⟩
  | done _ _ stopped => exact .inr ⟨_, stopped, rfl⟩

theorem outcome_of_rows_eq_nil {i : Interruption} (h : store.rowsUpTo k = []) :
    i.outcome (progressAt store k) = .error i.failure := by
  simp [Interruption.outcome, progressAt, h]

theorem outcome_of_rows_ne_nil {i : Interruption} (h : store.rowsUpTo k ≠ []) :
    i.outcome (progressAt store k) = .ok ⟨store.rowsUpTo k, k, i.stop⟩ := by
  simp [Interruption.outcome, progressAt, h]

/-- A collection fails where it is interrupted without rows, and with the failure of what
interrupted it. -/
theorem collect_eq_error_iff {failure : Failure} :
    (collect statement limit limits store).1 = .error failure ↔
      ∃ k i, Reaches limits limit store k ∧ limits.Interrupts store k i ∧
        store.rowsUpTo k = [] ∧ i.failure = failure := by
  constructor
  · intro h
    obtain ⟨k, reached, ⟨i, interrupted, hresult⟩ | ⟨stop, -, hresult⟩⟩ :=
      collect_cases statement limit limits store
    · rw [hresult] at h
      by_cases hrows : store.rowsUpTo k = []
      · rw [outcome_of_rows_eq_nil hrows] at h
        exact ⟨k, i, reached, interrupted, hrows, Except.error.inj h⟩
      · rw [outcome_of_rows_ne_nil hrows] at h
        cases h
    · rw [hresult] at h
      cases h
  · rintro ⟨k, i, reached, interrupted, hrows, rfl⟩
    rw [collect_of_interrupts statement reached interrupted, outcome_of_rows_eq_nil hrows]

theorem isPartial_of_interrupts {i : Interruption} (h : limits.Interrupts store k i) :
    i.stop.isPartial = true := by
  cases h <;> rfl

/-- A collection that stops after a page has what it wants, or all there is. -/
theorem isPartial_of_stop? {stop : StopReason}
    (h : (progressAt store k).stop? limits limit = some stop) : stop.isPartial = false := by
  rw [stop?_progressAt] at h
  split_ifs at h <;> cases h <;> rfl

/-- Too many rows count before enough rows, and enough rows before no further page. -/
theorem reason_of_stop? {stop : StopReason}
    (h : (progressAt store k).stop? limits limit = some stop) :
    (stop = .itemCeiling ↔ limits.maxItems ≤ (store.rowsUpTo k).length) ∧
    (stop = .limitReached ↔ (store.rowsUpTo k).length < limits.maxItems ∧
      ∃ n, limit = some n ∧ n ≤ (store.rowsUpTo k).length) ∧
    (stop = .exhausted ↔ (store.rowsUpTo k).length < limits.maxItems ∧
      ∀ n, limit = some n → (store.rowsUpTo k).length < n) ∧
    (stop = .exhausted → store.tokenAt k = none) := by
  rw [stop?_progressAt] at h
  split_ifs at h with hceiling hlimit htoken
  · cases h
    simp [hceiling, Nat.not_lt.mpr hceiling]
  · cases h
    obtain ⟨n, rfl, hn⟩ := hlimit
    simp [Nat.lt_of_not_le hceiling, hceiling, hn]
  · cases h
    have hbelow : ∀ n, limit = some n → (store.rowsUpTo k).length < n :=
      fun n hn => Nat.lt_of_not_le fun hle => hlimit ⟨n, hn, hle⟩
    refine ⟨by simp [hceiling], ?_, ?_, fun _ => htoken⟩
    · simpa using fun _ => hbelow
    · exact ⟨fun _ => ⟨Nat.lt_of_not_le hceiling, hbelow⟩, fun _ => rfl⟩

/-- A result says that rows may be missing where the collection was interrupted with rows in hand. -/
theorem isPartial_iff {c : Collection} (h : (collect statement limit limits store).1 = .ok c) :
    c.stop.isPartial = true ↔
      ∃ k i, Reaches limits limit store k ∧ limits.Interrupts store k i ∧
        store.rowsUpTo k ≠ [] ∧ c = ⟨store.rowsUpTo k, k, i.stop⟩ := by
  constructor
  · intro hpartial
    obtain ⟨k, reached, ⟨i, interrupted, hresult⟩ | ⟨stop, stopped, hresult⟩⟩ :=
      collect_cases statement limit limits store
    · rw [hresult] at h
      by_cases hrows : store.rowsUpTo k = []
      · rw [outcome_of_rows_eq_nil hrows] at h
        cases h
      · rw [outcome_of_rows_ne_nil hrows] at h
        exact ⟨k, i, reached, interrupted, hrows, (Except.ok.inj h).symm⟩
    · rw [hresult] at h
      cases h
      rw [isPartial_of_stop? stopped] at hpartial
      cases hpartial
  · rintro ⟨k, i, -, interrupted, -, rfl⟩
    exact isPartial_of_interrupts interrupted

/-- A collection that was not interrupted stops for the first reason that its rows give. -/
theorem stop_of_not_isPartial {c : Collection}
    (h : (collect statement limit limits store).1 = .ok c) (hpartial : c.stop.isPartial = false) :
    (progressAt store c.pages).stop? limits limit = some c.stop ∧
      c.rows = store.rowsUpTo c.pages := by
  obtain ⟨k, reached, ⟨i, interrupted, hresult⟩ | ⟨stop, stopped, hresult⟩⟩ :=
    collect_cases statement limit limits store
  · rw [hresult] at h
    rw [outcome_eq_ok h, isPartial_of_interrupts interrupted] at hpartial
    cases hpartial
  · rw [hresult] at h
    cases h
    exact ⟨stopped, rfl⟩

/-- How a collection ends. It fails exactly if it is interrupted without rows; with rows the
interruption is the reason to stop; and otherwise the reason is the first of too many rows, enough
rows and no further page. A collection that has what it wants after a page is not interrupted any
more, even if the caller cancelled while that page was on its way. -/
theorem collect_outcome (statement : String) (limit : Option Nat) (limits : Limits) (store : Store) :
    (∀ failure, (collect statement limit limits store).1 = .error failure ↔
      ∃ k i, Reaches limits limit store k ∧ limits.Interrupts store k i ∧
        store.rowsUpTo k = [] ∧ i.failure = failure) ∧
    (∀ k i, Reaches limits limit store k → limits.Interrupts store k i → store.rowsUpTo k ≠ [] →
      (collect statement limit limits store).1 = .ok ⟨store.rowsUpTo k, k, i.stop⟩) ∧
    (∀ c, (collect statement limit limits store).1 = .ok c →
      (c.stop.isPartial = true ↔
        ∃ k i, Reaches limits limit store k ∧ limits.Interrupts store k i ∧
          store.rowsUpTo k ≠ [] ∧ c = ⟨store.rowsUpTo k, k, i.stop⟩) ∧
      (c.stop.isPartial = false →
        (c.stop = .itemCeiling ↔ limits.maxItems ≤ c.rows.length) ∧
        (c.stop = .limitReached ↔
          c.rows.length < limits.maxItems ∧ ∃ n, limit = some n ∧ n ≤ c.rows.length) ∧
        (c.stop = .exhausted ↔
          c.rows.length < limits.maxItems ∧ ∀ n, limit = some n → c.rows.length < n) ∧
        (c.stop = .exhausted → store.tokenAt c.pages = none))) ∧
    ∀ k page, Reaches limits limit store k → limits.Allows store k → store.answer k = .ok page →
      ¬ limits.Wants limit store (k + 1) →
      ∃ stop, stop.isPartial = false ∧
        (collect statement limit limits store).1 = .ok ⟨store.rowsUpTo (k + 1), k + 1, stop⟩ := by
  refine ⟨fun failure => collect_eq_error_iff, ?_, ?_, ?_⟩
  · intro k i reached interrupted hrows
    rw [collect_of_interrupts statement reached interrupted, outcome_of_rows_ne_nil hrows]
  · intro c hc
    refine ⟨isPartial_iff hc, fun hpartial => ?_⟩
    obtain ⟨hstop, hrows⟩ := stop_of_not_isPartial hc hpartial
    rw [hrows]
    exact reason_of_stop? hstop
  · intro k page reached allowed answer unwanted
    obtain ⟨stop, hstop⟩ := Option.ne_none_iff_exists'.mp (mt stop?_progressAt_eq_none_iff.mp unwanted)
    exact ⟨stop, isPartial_of_stop? hstop, collect_of_stop? statement reached allowed answer hstop⟩

end Collection

end ItemStore
