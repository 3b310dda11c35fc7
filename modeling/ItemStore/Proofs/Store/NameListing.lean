import ItemStore.Query.Tables

/-! # The listing of all tables

A listing goes on from page to page as long as a page says where the next one starts, be it empty or
not. So the answers alone decide it: the pages from which it goes on, and the answer behind them, with
which it ends. The bound on the number of pages never cuts it short.
-/
namespace ItemStore.Store

/-- An answer from which a listing goes on: a page that says where the next one starts. -/
def leadsOn (answer : Except Failure NamePage) : Bool :=
  answer.toOption.any fun page => page.last.isSome

/-- The pages that come in before the answer with which a listing ends. -/
def earlierPages (answers : List (Except Failure NamePage)) : List NamePage :=
  (answers.takeWhile leadsOn).filterMap Except.toOption

/-- The answer with which a listing ends: a failure, or the first page that leads to no other one.
Behind all answers stands an empty page. -/
def finalAnswer (answers : List (Except Failure NamePage)) : Except Failure NamePage :=
  (answers.dropWhile leadsOn).head?.getD (.ok {})

section Answers
variable {answer : Except Failure NamePage}

theorem exists_of_leadsOn (h : leadsOn answer = true) :
    ∃ page last, answer = .ok page ∧ page.last = some last := by
  cases answer with
  | error failure => cases h
  | ok page =>
    obtain ⟨last, hlast⟩ := Option.isSome_iff_exists.mp h
    exact ⟨page, last, rfl, hlast⟩

theorem last_eq_none_of_not_leadsOn {page : NamePage} (h : leadsOn (.ok page) = false) :
    page.last = none :=
  Option.isNone_iff_eq_none.mp (Option.isSome_eq_false_iff.mp h)

theorem earlierPages_cons (answers : List (Except Failure NamePage)) {page : NamePage}
    (h : leadsOn (.ok page) = true) :
    earlierPages (.ok page :: answers) = page :: earlierPages answers := by
  rw [earlierPages, List.takeWhile_cons_of_pos h]
  rfl

theorem finalAnswer_cons (answers : List (Except Failure NamePage)) (h : leadsOn answer = true) :
    finalAnswer (answer :: answers) = finalAnswer answers := by
  rw [finalAnswer, List.dropWhile_cons_of_pos h]
  rfl

theorem earlierPages_of_not_leadsOn (answers : List (Except Failure NamePage))
    (h : leadsOn answer = false) : earlierPages (answer :: answers) = [] := by
  rw [earlierPages, List.takeWhile_cons_of_neg (by simp [h])]
  rfl

theorem finalAnswer_of_not_leadsOn (answers : List (Except Failure NamePage))
    (h : leadsOn answer = false) : finalAnswer (answer :: answers) = answer := by
  rw [finalAnswer, List.dropWhile_cons_of_neg (by simp [h])]
  rfl

end Answers

/-! ### The run of a listing -/

def listingFrom (start : Option String) : Listing := { start, limit := some listingSize }

def listed (store : Store) (starts : List (Option String)) : Store :=
  { store with
    namePages := store.namePages.drop starts.length
    listings := store.listings ++ starts.map listingFrom }

theorem listed_cons (store : Store) (start : Option String) (starts : List (Option String)) :
    (store.listed [start]).listed starts = store.listed (start :: starts) := by
  simp [listed]

theorem list_listingFrom (store : Store) (start : Option String) :
    store.list (listingFrom start) = (store.namePages.head?.getD (.ok {}), store.listed [start]) := by
  simp [list, listed]

section Steps
variable {store : Store}

/-- A page that says where the next one starts is followed by the names from there on. -/
theorem namesFrom_of_last {page : NamePage} {last : String}
    (hpage : store.namePages.head?.getD (.ok {}) = .ok page) (hlast : page.last = some last)
    (left : Nat) (start : Option String) :
    namesFrom (left + 1) start store =
      ((namesFrom left (some last) (store.listed [start])).1.map (page.names ++ ·),
        (namesFrom left (some last) (store.listed [start])).2) := by
  have hlist := list_listingFrom store start
  rw [hpage] at hlist
  rw [namesFrom, ← listingFrom, hlist]
  simp only [hlast]
  obtain ⟨names, after⟩ := namesFrom left (some last) (store.listed [start])
  cases names <;> rfl

/-- Any other answer is the last one that is asked for. -/
theorem namesFrom_of_not_leadsOn (h : leadsOn (store.namePages.head?.getD (.ok {})) = false)
    (left : Nat) (start : Option String) :
    namesFrom left start store =
      ((store.namePages.head?.getD (.ok {})).map (·.names), store.listed [start]) := by
  have hlist := list_listingFrom store start
  rw [namesFrom.eq_def, ← listingFrom, hlist]
  generalize store.namePages.head?.getD (.ok {}) = answer at h
  cases answer with
  | error failure => rfl
  | ok page =>
    simp only [last_eq_none_of_not_leadsOn h]
    rfl

/-- A listing that may still ask for every answer goes on until the final one. -/
theorem namesFrom_eq {answers : List (Except Failure NamePage)} {left : Nat}
    (hanswers : store.namePages = answers) (hleft : answers.length ≤ left) (start : Option String) :
    namesFrom left start store =
      ((finalAnswer answers).map fun page => (earlierPages answers).flatMap (·.names) ++ page.names,
        store.listed (start :: (earlierPages answers).map (·.last))) := by
  -- on the answers to come: each page that leads on takes one of them and one step of the bound
  induction answers generalizing left start store with
  | nil =>
    rw [namesFrom_of_not_leadsOn (by simp [hanswers, leadsOn, Except.toOption]), hanswers]
    rfl
  | cons answer answers ih =>
    cases hlead : leadsOn answer with
    | false =>
      rw [namesFrom_of_not_leadsOn (by simp [hanswers, hlead]), hanswers,
        finalAnswer_of_not_leadsOn answers hlead, earlierPages_of_not_leadsOn answers hlead]
      rfl
    | true =>
      obtain ⟨page, last, rfl, hlast⟩ := exists_of_leadsOn hlead
      obtain ⟨left, rfl⟩ : ∃ n, left = n + 1 := Nat.exists_eq_succ_of_ne_zero (by simp at hleft; omega)
      have hrest : (store.listed [start]).namePages = answers := by simp [listed, hanswers]
      rw [namesFrom_of_last (by simp [hanswers]) hlast, ih hrest (by simpa using hleft),
        finalAnswer_cons answers hlead, earlierPages_cons answers hlead, listed_cons, List.map_cons,
        hlast, List.flatMap_cons]
      cases finalAnswer answers with
      | error failure => rfl
      | ok final => simp [Except.map]

end Steps

/-- All tables are listed: the names of the pages up to the final one, page by page, where each page
but the first is asked for by the name that the page before it gave. If a page fails, the listing
fails with it. Nothing is asked for behind the final answer. -/
theorem allNames_eq (store : Store) :
    allNames store =
      ((finalAnswer store.namePages).map fun page =>
          (earlierPages store.namePages).flatMap (·.names) ++ page.names,
        { store with
          namePages := store.namePages.drop ((earlierPages store.namePages).length + 1)
          listings := store.listings ++
            (none :: (earlierPages store.namePages).map (·.last)).map
              ({ start := ·, limit := some listingSize }) }) := by
  rw [allNames, namesFrom_eq rfl (Nat.le_refl _), listed, List.length_cons, List.length_map]
  rfl

example :
    let pages : List (Except Failure NamePage) :=
      [.ok ⟨["a"], some "a"⟩, .ok ⟨[], some "b"⟩, .ok ⟨["c"], none⟩, .ok ⟨["d"], none⟩]
    (allNames { namePages := pages }).1 = .ok ["a", "c"] := rfl

end ItemStore.Store
