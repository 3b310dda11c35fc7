import ItemStore.Proofs.Upload.PlanAcceptance
import ItemStore.Proofs.Upload.Sending

/-! # The rows of a select upload

Each statement of an upload is sent once and answered by one page, and the results of a select preset
are the rows of these pages in the order of the statements. A page that names a continuation is only
the first of its result set. What follows it is never asked for, so the results are all rows of the
result sets exactly if the pages that follow have none.
-/
namespace ItemStore

/-! ### Result sets -/

/-- The pages of a result set, in order: each but the last says where the next one starts. -/
inductive ResultSet : List Page → Prop
  | last {page : Page} (h : page.continuation = none) : ResultSet [page]
  | more {page : Page} {rest : List Page} (h : page.continuation ≠ none) (hrest : ResultSet rest) :
      ResultSet (page :: rest)

namespace ResultSet

def Begin (pages : List Page) (sets : List (List Page)) : Prop :=
  List.Forall₂ (fun page set => ResultSet set ∧ set.head? = some page) pages sets

def rows (sets : List (List Page)) : List Row := sets.flatten.flatMap Page.rows

/-- The rows of the pages that are not the first of their result set. -/
def laterRows (sets : List (List Page)) : List Row := (sets.flatMap List.tail).flatMap Page.rows

variable {pages set : List Page} {page : Page} {sets : List (List Page)}

/-- A page without a continuation is all of its result set. -/
theorem tail_eq_nil (h : ResultSet set) (hfirst : set.head? = some page)
    (hend : page.continuation = none) : set.tail = [] := by
  cases h with
  | last => rfl
  | more hmore =>
    obtain rfl := Option.some.inj hfirst
    exact absurd hend hmore

theorem laterRows_eq_nil (h : Begin pages sets) (hend : ∀ page ∈ pages, page.continuation = none) :
    laterRows sets = [] := by
  induction h with
  | nil => rfl
  | @cons page set pages sets hset _ ih =>
    rw [List.forall_mem_cons] at hend
    rw [laterRows, List.flatMap_cons, tail_eq_nil hset.1 hset.2 hend.1, List.nil_append]
    exact ih hend.2

theorem rows_cons (page : Page) (rest : List Page) (sets : List (List Page)) :
    rows ((page :: rest) :: sets) = page.rows ++ (rest.flatMap Page.rows ++ rows sets) := by
  simp [rows]

theorem laterRows_cons (page : Page) (rest : List Page) (sets : List (List Page)) :
    laterRows ((page :: rest) :: sets) = rest.flatMap Page.rows ++ laterRows sets := by
  simp [laterRows]

theorem length_rows (h : Begin pages sets) :
    (rows sets).length = (pages.flatMap Page.rows).length + (laterRows sets).length := by
  induction h with
  | nil => rfl
  | @cons page set pages sets hset _ ih =>
    obtain ⟨rest, rfl⟩ := List.head?_eq_some_iff.mp hset.2
    rw [rows_cons, laterRows_cons, List.flatMap_cons]
    simp only [List.length_append, ih]
    omega

theorem rows_eq_of_laterRows_eq_nil (h : Begin pages sets) (hlater : laterRows sets = []) :
    rows sets = pages.flatMap Page.rows := by
  induction h with
  | nil => rfl
  | @cons page set pages sets hset _ ih =>
    obtain ⟨rest, rfl⟩ := List.head?_eq_some_iff.mp hset.2
    rw [laterRows_cons, List.append_eq_nil_iff] at hlater
    rw [rows_cons, List.flatMap_cons, hlater.1, List.nil_append, ih hlater.2]

end ResultSet

def Store.Answers (store : Store) (pages : List Page) : Prop :=
  ∀ k page, pages[k]? = some page → store.answer k = .ok page

namespace Upload.Catalog

theorem length_of_rowsToJson {rows : List Row} {jsons : List Json} (h : rowsToJson rows = .ok jsons) :
    jsons.length = rows.length := by
  induction rows generalizing jsons with
  | nil =>
    cases h
    rfl
  | cons row rest ih =>
    obtain ⟨json, -, h⟩ := Failure.bind_eq_ok_iff.mp h
    obtain ⟨later, hlater, h⟩ := Failure.bind_eq_ok_iff.mp h
    cases h
    rw [List.length_cons, List.length_cons, ih hlater]

/-- The rows that come in are those of the answers, one page for each statement. -/
theorem exists_pages_of_send {store : Store} {number : Nat} {statements : List BuiltStatement}
    {sent : Sent} (h : (send store number statements).1 = .ok sent) :
    ∃ pages, pages.length = statements.length ∧ store.Answers pages ∧
      sent.rows = pages.flatMap Page.rows := by
  induction statements generalizing store number sent with
  | nil =>
    cases h
    exact ⟨[], rfl, by simp [Store.Answers], rfl⟩
  | cons built rest ih =>
    cases hfirst : store.answer 0 with
    | error failure =>
      rw [send_cons_of_error hfirst] at h
      cases h
    | ok page =>
      rw [send_cons_of_ok hfirst] at h
      obtain ⟨later, hlater, rfl⟩ := Failure.map_eq_ok_iff.mp h
      -- the other answers are found in the store that is left, each one place earlier
      obtain ⟨pages, hlength, hanswers, hrows⟩ := ih hlater
      refine ⟨page :: pages, by rw [List.length_cons, List.length_cons, hlength], ?_, ?_⟩
      · intro k other hother
        cases k with
        | zero =>
          cases hother
          exact hfirst
        | succ k =>
          rw [← store.answer_execute built.request]
          exact hanswers k other hother
      · rw [List.flatMap_cons, ← hrows]

section Execution
variable {catalog : Catalog} {request : UploadRequest} {store : Store} {p : Preset} {plan : Plan}
  {report : Report}

/-- A report is made of what the statements brought in, and each of them was sent once. -/
theorem exists_sent_of_execute (hprepare : catalog.prepare request = .ok (p, plan))
    (h : (catalog.execute request store).1 = .ok (.executed report)) :
    ∃ sent, (send store 1 plan.statements).1 = .ok sent ∧ report = reportOf p plan sent ∧
      (catalog.execute request store).2.requests =
        store.requests ++ plan.statements.map BuiltStatement.request := by
  unfold execute at h ⊢
  rw [hprepare] at h ⊢
  cases hdry : request.dryRun with
  | true =>
    simp only [hdry, if_true] at h
    obtain ⟨_, -, houtcome⟩ := Failure.map_eq_ok_iff.mp h
    cases houtcome
  | false =>
    simp only [hdry, Bool.false_eq_true, if_false] at h ⊢
    have hends := sendEnds_send store 1 plan.statements
    generalize send store 1 plan.statements = result at hends h ⊢
    cases hends with
    | failed => cases h
    | done answered sent =>
      cases h
      exact ⟨sent, rfl, rfl, store.requests_send _⟩

theorem execute_of_send {sent : Sent} (hprepare : catalog.prepare request = .ok (p, plan))
    (hdry : request.dryRun = false) (hsent : (send store 1 plan.statements).1 = .ok sent) :
    (catalog.execute request store).1 = .ok (.executed (reportOf p plan sent)) := by
  unfold execute
  simp only [hprepare, hdry, Bool.false_eq_true, if_false]
  generalize send store 1 plan.statements = result at hsent ⊢
  obtain ⟨_, after⟩ := result
  cases hsent
  rfl

/-- The results of a select preset are the rows that came in, if they can be shown. -/
theorem reportOf_of_rowsToJson (plan : Plan) {sent : Sent} {results : List Json}
    (hselect : p.operation = .select) (h : rowsToJson sent.rows = .ok results) :
    (reportOf p plan sent).results = results ∧ (reportOf p plan sent).warnings = [] := by
  unfold reportOf
  simp only [if_pos hselect, h, and_self]

theorem rowsToJson_of_reportOf {sent : Sent} (hselect : p.operation = .select)
    (hwarnings : (reportOf p plan sent).warnings = []) :
    rowsToJson sent.rows = .ok (reportOf p plan sent).results := by
  unfold reportOf at hwarnings ⊢
  simp only [if_pos hselect] at hwarnings ⊢
  split at hwarnings
  · next results hresults => rw [hresults]
  · cases hwarnings

end Execution

theorem prepare_of_makes {catalog : Catalog} {request : UploadRequest} {p : Preset}
    {statements : List BuiltStatement} (hid : request.presetId ≠ "")
    (hresolve : catalog.resolve request.presetId = .ok p) (husable : p.Usable)
    (hitems : request.items ≠ []) (hmade : List.Forall₂ (Makes p) request.items statements)
    (hcap : totalBytes request.items ≤ capBytes (p.effectiveMaxKB catalog.settings.maxPayloadKB)) :
    catalog.prepare request = .ok (p, ⟨statements, totalBytes request.items⟩) := by
  obtain ⟨hpreset, htable, hoperation⟩ := husable
  exact prepare_eq_ok_iff.mpr
    { named := hid
      resolved := hresolve
      complete :=
        { named := ⟨hpreset, htable⟩
          supported := Operation.ensureSupported_eq_ok hoperation
          nonempty := hitems
          made := hmade
          payloadBytes := rfl
          withinCap := hcap } }

theorem exists_makes_of_no_fields {p : Preset} (hselect : p.operation = .select)
    (htemplate : p.template? = none) (hvalid : validateItem p [] = .ok ()) :
    ∃ built, Makes p (.object []) built := by
  have hbuilt : ∃ built, buildStatement p [] = .ok built := by
    simp only [buildStatement, hselect, htemplate]
    exact ⟨_, rfl⟩
  obtain ⟨built, hbuilt⟩ := hbuilt
  exact ⟨built, [], rfl, hvalid, hbuilt⟩

/-- The results of a select upload are the rows of the first page of each statement, and no further
page is asked for. They are all rows of the result sets exactly if the later pages have none, as it
is where no page names a continuation. -/
theorem execute_selects {catalog : Catalog} {request : UploadRequest} {store : Store} {p : Preset}
    {plan : Plan} {report : Report} (hprepare : catalog.prepare request = .ok (p, plan))
    (hselect : p.operation = .select)
    (h : (catalog.execute request store).1 = .ok (.executed report))
    (hwarnings : report.warnings = []) :
    ∃ pages, pages.length = plan.size ∧ store.Answers pages ∧
      (catalog.execute request store).2.requests =
        store.requests ++ plan.statements.map BuiltStatement.request ∧
      rowsToJson (pages.flatMap Page.rows) = .ok report.results ∧
      ∀ sets, ResultSet.Begin pages sets →
        (rowsToJson (ResultSet.rows sets) = .ok report.results ↔ ResultSet.laterRows sets = []) ∧
        ((∀ page ∈ pages, page.continuation = none) → ResultSet.laterRows sets = []) := by
  obtain ⟨sent, hsent, rfl, hrequests⟩ := exists_sent_of_execute hprepare h
  obtain ⟨pages, hlength, hanswers, hrows⟩ := exists_pages_of_send hsent
  have hresults := rowsToJson_of_reportOf hselect hwarnings
  rw [hrows] at hresults
  refine ⟨pages, hlength, hanswers, hrequests, hresults, ?_⟩
  intro sets hbegin
  refine ⟨⟨?_, ?_⟩, ResultSet.laterRows_eq_nil hbegin⟩
  · intro hall
    -- what is shown is one object for each row, so no row can be missing
    have hcount := (length_of_rowsToJson hall).symm.trans (length_of_rowsToJson hresults)
    rw [ResultSet.length_rows hbegin] at hcount
    exact List.eq_nil_of_length_eq_zero (by omega)
  · intro hlater
    rw [ResultSet.rows_eq_of_laterRows_eq_nil hbegin hlater, hresults]

/-- The second of two statements is answered by a page that leads on to an empty one. -/
theorem execute_selects_of_two_statements :
    let p : Preset := { id := "all", table := "T", operation := .select }
    let catalog : Catalog := { settings := { presets := [p] } }
    let request : UploadRequest := { presetId := "all", items := [.object [], .object []] }
    let first : Page := { rows := [[("id", .string "a")]], token := some "" }
    let second : Page := { rows := [[("n", .number "1")]], token := some "t" }
    let store : Store := { answers := [.ok first, .ok second] }
    ∃ plan report, catalog.prepare request = .ok (p, plan) ∧ p.operation = .select ∧
      (catalog.execute request store).1 = .ok (.executed report) ∧ report.warnings = [] ∧
      report.results = [.object [("id", .string "a")], .object [("n", .ofInt 1)]] ∧
      (catalog.execute request store).2.requests = plan.statements.map BuiltStatement.request ∧
      ResultSet.Begin [first, second] [[first], [second, {}]] ∧
      rowsToJson (ResultSet.rows [[first], [second, {}]]) = .ok report.results := by
  intro p catalog request first second store
  have hselect : p.operation = .select := rfl
  obtain ⟨built, hmakes⟩ := exists_makes_of_no_fields hselect (by decide) rfl
  have hcap : totalBytes request.items ≤ capBytes (p.effectiveMaxKB 0) := by decide +kernel
  have husable : p.Usable := ⟨by decide, by decide, by simp [p]⟩
  let plan : Plan := ⟨[built, built], totalBytes request.items⟩
  have hprepare : catalog.prepare request = .ok (p, plan) :=
    prepare_of_makes (by decide) rfl husable (by simp [request])
      (.cons hmakes (.cons hmakes .nil)) hcap
  let sent : Sent := { rows := first.rows ++ second.rows }
  have hsent : (send store 1 plan.statements).1 = .ok sent := rfl
  have hreport := execute_of_send hprepare rfl hsent
  have hrows : rowsToJson sent.rows =
      .ok [.object [("id", .string "a")], .object [("n", .ofInt 1)]] := rfl
  obtain ⟨hresults, hwarnings⟩ := reportOf_of_rowsToJson plan hselect hrows
  obtain ⟨pages, hlength, hanswers, hrequests, -, hsets⟩ :=
    execute_selects hprepare hselect hreport hwarnings
  have hpages : pages = [first, second] := by
    obtain ⟨a, b, rfl⟩ := List.length_eq_two.mp hlength
    cases hanswers 0 a rfl
    cases hanswers 1 b rfl
    rfl
  have hbegin : ResultSet.Begin pages [[first], [second, {}]] := by
    rw [hpages]
    exact .cons ⟨.last (by decide), rfl⟩ (.cons ⟨.more (by decide) (.last (by decide)), rfl⟩ .nil)
  exact ⟨plan, _, hprepare, hselect, hreport, hwarnings, hresults, hrequests, hpages ▸ hbegin,
    (hsets _ hbegin).1.mpr rfl⟩

/-- The rows of a page that is not asked for are missing, and no warning says so. -/
theorem execute_loses_later_rows :
    let p : Preset := { id := "all", table := "T", operation := .select }
    let catalog : Catalog := { settings := { presets := [p] } }
    let request : UploadRequest := { presetId := "all", items := [.object []] }
    let first : Page := { rows := [[("id", .string "a")]], token := some "t" }
    let later : Page := { rows := [[("id", .string "b")]] }
    let store : Store := { answers := [.ok first, .ok later] }
    ResultSet [first, later] ∧ store.Answers [first, later] ∧
      ∃ plan report, catalog.prepare request = .ok (p, plan) ∧ plan.size = 1 ∧
        (catalog.execute request store).1 = .ok (.executed report) ∧ report.warnings = [] ∧
        (catalog.execute request store).2.requests.length = 1 ∧ first.continuation = some "t" ∧
        report.results = [.object [("id", .string "a")]] ∧
        rowsToJson (ResultSet.rows [[first, later]]) =
          .ok [.object [("id", .string "a")], .object [("id", .string "b")]] := by
  intro p catalog request first later store
  have hselect : p.operation = .select := rfl
  obtain ⟨built, hmakes⟩ := exists_makes_of_no_fields hselect (by decide) rfl
  have hcap : totalBytes request.items ≤ capBytes (p.effectiveMaxKB 0) := by decide +kernel
  have husable : p.Usable := ⟨by decide, by decide, by simp [p]⟩
  let plan : Plan := ⟨[built], totalBytes request.items⟩
  have hprepare : catalog.prepare request = .ok (p, plan) :=
    prepare_of_makes (by decide) rfl husable (by simp [request]) (.cons hmakes .nil) hcap
  have hanswers : store.Answers [first, later] := by
    intro k page hpage
    match k, hpage with
    | 0, rfl => rfl
    | 1, rfl => rfl
  let sent : Sent := { rows := first.rows }
  have hsent : (send store 1 plan.statements).1 = .ok sent := rfl
  have hreport := execute_of_send hprepare rfl hsent
  have hrows : rowsToJson sent.rows = .ok [.object [("id", .string "a")]] := rfl
  obtain ⟨hresults, hwarnings⟩ := reportOf_of_rowsToJson plan hselect hrows
  obtain ⟨_, -, -, hrequests⟩ := exists_sent_of_execute hprepare hreport
  exact ⟨.more (by decide) (.last rfl), hanswers, plan, _, hprepare, rfl, hreport, hwarnings,
    by rw [hrequests]; rfl, by decide, hresults, rfl⟩

end Upload.Catalog

end ItemStore
