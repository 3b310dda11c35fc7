import ItemStore.Proofs.Store.Statements
import ItemStore.Proofs.Upload.PlanItems
import ItemStore.Upload.Service

/-! # Sending the statements of a plan

A request is sent only after the whole of it was planned. Its statements then go out one by one, in
order, until one fails, and a dry run sends none and answers what the preview does.
-/
namespace ItemStore.Upload

def BuiltStatement.request (built : BuiltStatement) : Request :=
  { statement := built.statement, parameters := built.parameters, reportCapacity := true }

namespace Catalog

/-- How sending some statements ends, the first of which has the given number. -/
inductive SendEnds (store : Store) (number : Nat) (statements : List BuiltStatement) :
    Except Failure Sent × Store → Prop
  | failed {k : Nat} {failure : Failure} (place : k < statements.length)
    (before : ∀ j < k, ∃ page, store.answer j = .ok page)
    (answer : store.answer k = .error failure) :
    SendEnds store number statements (.error (failedStatement (number + k) failure),
      store.send ((statements.take (k + 1)).map BuiltStatement.request))
  | done (answered : ∀ j < statements.length, ∃ page, store.answer j = .ok page) (sent : Sent) :
    SendEnds store number statements
      (.ok sent, store.send (statements.map BuiltStatement.request))

section Steps
variable {store : Store} {number : Nat} {built : BuiltStatement} {rest : List BuiltStatement}

theorem send_cons_of_error {failure : Failure} (h : store.answer 0 = .error failure) :
    send store number (built :: rest) =
      (.error (failedStatement number failure), store.send [built.request]) := by
  have hexecute := store.execute_eq built.request
  rw [h] at hexecute
  unfold BuiltStatement.request at hexecute
  rw [send, hexecute]
  rfl

/-- What the first statement brought in is put before what the others did. -/
theorem send_cons_of_ok {page : Page} (h : store.answer 0 = .ok page) :
    send store number (built :: rest) =
      let later := send (store.execute built.request).2 (number + 1) rest
      (later.1.map fun sent => ⟨page.capacity.toList ++ sent.capacities, page.rows ++ sent.rows⟩,
        later.2) := by
  have hexecute := store.execute_eq built.request
  rw [h] at hexecute
  unfold BuiltStatement.request at hexecute
  rw [send, hexecute]
  dsimp only [BuiltStatement.request]
  generalize send _ _ rest = later
  obtain ⟨_ | sent, after⟩ := later <;> rfl

theorem answered_cons {page : Page} {k : Nat} (hpage : store.answer 0 = .ok page)
    (h : ∀ j < k, ∃ page, (store.execute built.request).2.answer j = .ok page) :
    ∀ j < k + 1, ∃ page, store.answer j = .ok page := by
  intro j hj
  cases j with
  | zero => exact ⟨page, hpage⟩
  | succ j =>
    rw [← store.answer_execute built.request]
    exact h j (Nat.lt_of_succ_lt_succ hj)

/-- After a statement that was answered the rest are sent to the store as it is then. -/
theorem SendEnds.cons {page : Page} {result : Except Failure Sent × Store}
    (hpage : store.answer 0 = .ok page)
    (h : SendEnds (store.execute built.request).2 (number + 1) rest result) (f : Sent → Sent) :
    SendEnds store number (built :: rest) (result.1.map f, result.2) := by
  cases h with
  | @failed k failure place before answer =>
    have hnumber : number + 1 + k = number + (k + 1) := by omega
    have hfailure : store.answer (k + 1) = .error failure := by
      rw [← answer, store.answer_execute]
    rw [hnumber]
    exact .failed (Nat.succ_lt_succ place) (answered_cons hpage before) hfailure
  | done answered sent =>
    have hanswered : ∀ j < (built :: rest).length, ∃ page, store.answer j = .ok page :=
      answered_cons hpage answered
    exact .done hanswered (f sent)

end Steps

theorem sendEnds_send (store : Store) (number : Nat) (statements : List BuiltStatement) :
    SendEnds store number statements (send store number statements) := by
  induction statements generalizing store number with
  | nil => exact .done (by simp) {}
  | cons built rest ih =>
    cases hfirst : store.answer 0 with
    | error failure =>
      have hplace : 0 < (built :: rest).length := Nat.succ_pos _
      have hends : SendEnds store number (built :: rest)
          (.error (failedStatement (number + 0) failure), _) := .failed hplace (by simp) hfirst
      rw [send_cons_of_error hfirst]
      exact hends
    | ok page =>
      rw [send_cons_of_ok hfirst]
      exact .cons hfirst (ih _ _) _

/-! ### Carrying a request out -/

/-- The whole of a request is prepared: its preset is found, and each of its items makes the
statement of the plan. -/
structure Prepared (catalog : Catalog) (request : UploadRequest) (p : Preset) (plan : Plan) : Prop where
  named : request.presetId ≠ ""
  resolved : catalog.resolve request.presetId = .ok p
  complete : plan.Complete p catalog.settings.maxPayloadKB request.items

section Requests
variable {catalog : Catalog} {request : UploadRequest} {p : Preset} {plan : Plan}

theorem prepare_eq_ok_iff :
    catalog.prepare request = .ok (p, plan) ↔ catalog.Prepared request p plan := by
  constructor
  · intro h
    unfold prepare at h
    split at h
    · cases h
    · next hnamed =>
      obtain ⟨q, hresolved, h⟩ := Failure.bind_eq_ok_iff.mp h
      obtain ⟨made, hmade, h⟩ := Failure.bind_eq_ok_iff.mp h
      cases h
      exact ⟨hnamed, hresolved, buildPlan_complete hmade⟩
  · intro h
    rw [prepare, if_neg h.named, Failure.bind_eq_ok_iff]
    refine ⟨p, h.resolved, ?_⟩
    rw [Failure.bind_eq_ok_iff]
    exact ⟨plan, buildPlan_eq_ok_iff.mpr h.complete, rfl⟩

theorem preview_of_prepare (h : catalog.prepare request = .ok (p, plan)) :
    catalog.preview request = (ensureDryRunAllowed p).map fun _ => previewOf p request plan := by
  rw [preview, h]
  change (ensureDryRunAllowed p >>= fun _ => .ok (previewOf p request plan)) = _
  cases ensureDryRunAllowed p <;> rfl

end Requests

theorem reportOf_counts (p : Preset) (plan : Plan) (sent : Sent) :
    (reportOf p plan sent).itemCount = plan.size ∧
      (reportOf p plan sent).statements = plan.previews ∧
      (reportOf p plan sent).payloadBytes = plan.payloadBytes := by
  unfold reportOf
  dsimp only
  split
  · split <;> exact ⟨rfl, rfl, rfl⟩
  · exact ⟨rfl, rfl, rfl⟩

/-- What carrying out a request amounts to, where `log` is what was sent for it. -/
structure Carried (catalog : Catalog) (request : UploadRequest) (store : Store) (log : List Request)
    (result : Except Failure Outcome) : Prop where
  whole : log ≠ [] → request.dryRun = false ∧ ∃ p plan, catalog.Prepared request p plan
  refused : (∀ p plan, ¬ catalog.Prepared request p plan) →
    log = [] ∧ ∃ failure, catalog.prepare request = .error failure ∧ result = .error failure
  dryRun : request.dryRun = true → log = [] ∧ result = (catalog.preview request).map Outcome.dryRun
  sent : request.dryRun = false → ∀ p plan, catalog.Prepared request p plan →
    (∃ k failure, k < plan.statements.length ∧ (∀ j < k, ∃ page, store.answer j = .ok page) ∧
      store.answer k = .error failure ∧
      log = (plan.statements.take (k + 1)).map BuiltStatement.request ∧
      result = .error (.remote
        ("failed to execute statement " ++ toString (k + 1) ++ ": " ++ failure.detail))) ∨
    ((∀ j < plan.statements.length, ∃ page, store.answer j = .ok page) ∧
      log = plan.statements.map BuiltStatement.request ∧
      ∃ report, result = .ok (.executed report) ∧ report.itemCount = request.items.length ∧
        report.statements = plan.previews ∧ report.payloadBytes = totalBytes request.items)
  reported : ∀ preview report, catalog.preview request = .ok preview →
    result = .ok (.executed report) → report.itemCount = preview.itemCount ∧
      report.statements = preview.statements ∧ report.payloadBytes = preview.payloadBytes

section Carrying
variable {catalog : Catalog} {request : UploadRequest} {p : Preset} {plan : Plan} {store : Store}

theorem Carried.of_refused {failure : Failure} (h : catalog.prepare request = .error failure) :
    Carried catalog request store [] (.error failure) where
  whole := by simp
  refused := fun _ => ⟨rfl, failure, h, rfl⟩
  dryRun := by
    intro _
    rw [preview, h]
    exact ⟨rfl, rfl⟩
  sent := by
    intro _ p plan hprepared
    cases h.symm.trans (prepare_eq_ok_iff.mpr hprepared)
  reported := by simp

theorem Carried.of_dryRun (h : catalog.prepare request = .ok (p, plan))
    (hdry : request.dryRun = true) :
    Carried catalog request store []
      ((ensureDryRunAllowed p).map fun _ => .dryRun (previewOf p request plan)) where
  whole := by simp
  refused := fun hnone => absurd (prepare_eq_ok_iff.mp h) (hnone p plan)
  dryRun := by
    intro _
    rw [preview_of_prepare h]
    refine ⟨rfl, ?_⟩
    cases ensureDryRunAllowed p <;> rfl
  sent := by simp [hdry]
  reported := by
    intro preview report _ hresult
    obtain ⟨_, _, hexecuted⟩ := Failure.map_eq_ok_iff.mp hresult
    cases hexecuted

theorem Carried.of_failed (h : catalog.prepare request = .ok (p, plan))
    (hdry : request.dryRun = false) {k : Nat} {failure : Failure}
    (hplace : k < plan.statements.length) (hbefore : ∀ j < k, ∃ page, store.answer j = .ok page)
    (hanswer : store.answer k = .error failure) :
    Carried catalog request store ((plan.statements.take (k + 1)).map BuiltStatement.request)
      (.error (failedStatement (1 + k) failure)) where
  whole := fun _ => ⟨hdry, p, plan, prepare_eq_ok_iff.mp h⟩
  refused := fun hnone => absurd (prepare_eq_ok_iff.mp h) (hnone p plan)
  dryRun := by simp [hdry]
  sent := by
    intro _ q other hother
    cases h.symm.trans (prepare_eq_ok_iff.mpr hother)
    exact .inl ⟨k, failure, hplace, hbefore, hanswer, rfl, by rw [failedStatement, Nat.add_comm]⟩
  reported := by simp

/-- The plan tells the number of the items, as it has a statement for each. -/
theorem Carried.of_done (h : catalog.prepare request = .ok (p, plan)) (hdry : request.dryRun = false)
    (hanswered : ∀ j < plan.statements.length, ∃ page, store.answer j = .ok page) (sent : Sent) :
    Carried catalog request store (plan.statements.map BuiltStatement.request)
      (.ok (.executed (reportOf p plan sent))) := by
  have hprepared := prepare_eq_ok_iff.mp h
  obtain ⟨hsize, hstatements, hbytes⟩ := reportOf_counts p plan sent
  have hcount : (reportOf p plan sent).itemCount = request.items.length :=
    hsize.trans hprepared.complete.length_statements
  exact
    { whole := fun _ => ⟨hdry, p, plan, hprepared⟩
      refused := fun hnone => absurd hprepared (hnone p plan)
      dryRun := by simp [hdry]
      sent := by
        intro _ q other hother
        cases h.symm.trans (prepare_eq_ok_iff.mpr hother)
        exact .inr ⟨hanswered, rfl, _, rfl, hcount, hstatements,
          hbytes.trans hprepared.complete.payloadBytes⟩
      reported := by
        intro preview report hpreview hresult
        rw [preview_of_prepare h] at hpreview
        obtain ⟨_, -, rfl⟩ := Failure.map_eq_ok_iff.mp hpreview
        cases hresult
        exact ⟨hcount, hstatements, hbytes⟩ }

end Carrying

/-- A request is carried out statement by statement once all of it is prepared, up to the first
failure, and a dry run only shows it. -/
theorem execute_carried (catalog : Catalog) (request : UploadRequest) (store : Store) :
    ∃ log, (catalog.execute request store).2.requests = store.requests ++ log ∧
      Carried catalog request store log (catalog.execute request store).1 := by
  unfold execute
  cases hprepare : catalog.prepare request with
  | error failure => exact ⟨[], (List.append_nil _).symm, .of_refused hprepare⟩
  | ok prepared =>
    obtain ⟨p, plan⟩ := prepared
    cases hdry : request.dryRun with
    | true => exact ⟨[], (List.append_nil _).symm, .of_dryRun hprepare hdry⟩
    | false =>
      have hends := sendEnds_send store 1 plan.statements
      simp only [Bool.false_eq_true, if_false]
      generalize send store 1 plan.statements = result at hends ⊢
      cases hends with
      | failed place before answer =>
        exact ⟨_, store.requests_send _, .of_failed hprepare hdry place before answer⟩
      | done answered sent => exact ⟨_, store.requests_send _, .of_done hprepare hdry answered sent⟩

/-- The second of three statements fails and is the last one that is sent. With an item among them
that is no object, none is. -/
theorem execute_carried_of_second_failure :
    let p : Preset := { id := "bulk", table := "T", operation := .insert }
    let catalog : Catalog := { settings := { presets := [p] } }
    let item (name : String) : Json := .object [(name, .bool true)]
    let request : UploadRequest := { presetId := "bulk", items := [item "a", item "b", item "c"] }
    let mixed : UploadRequest := { presetId := "bulk", items := [item "a", .null] }
    let store : Store := { answers := [.ok {}, .error (.remote "throttled")] }
    (∃ plan, catalog.Prepared request p plan ∧ plan.size = 3 ∧
      (catalog.execute request store).2.requests =
        (plan.statements.take 2).map BuiltStatement.request ∧
      (catalog.execute request store).1 =
        .error (.remote "failed to execute statement 2: throttled")) ∧
      (∀ q plan, ¬ catalog.Prepared mixed q plan) ∧ (catalog.execute mixed store).2.requests = [] := by
  intro p catalog item request mixed store
  obtain ⟨log, hrequests, hcarried⟩ := execute_carried catalog request store
  obtain ⟨nothing, hnothing, hmixed⟩ := execute_carried catalog mixed store
  constructor
  · cases hprepare : catalog.prepare request with
    | error failure =>
      have hok : (catalog.prepare request).isOk = true := by decide +kernel
      rw [hprepare] at hok
      cases hok
    | ok prepared =>
      obtain ⟨q, plan⟩ := prepared
      have hprepared := prepare_eq_ok_iff.mp hprepare
      have hsize : plan.statements.length = 3 := hprepared.complete.length_statements
      cases hprepared.resolved
      obtain ⟨k, failure, hplace, -, hanswer, rfl, hresult⟩ | ⟨hanswered, -⟩ :=
        hcarried.sent rfl p plan hprepared
      · obtain rfl : k = 1 := by
          match k, hanswer with
          | 1, _ => rfl
        cases hanswer
        exact ⟨plan, hprepared, hsize, hrequests, hresult⟩
      · obtain ⟨page, hpage⟩ := hanswered 1 (by omega)
        cases hpage
  · have hrefuses : ∀ q plan, ¬ catalog.Prepared mixed q plan := by
      intro q plan hprepared
      have hfails : (catalog.prepare mixed).isOk = false := by decide +kernel
      rw [prepare_eq_ok_iff.mpr hprepared] at hfails
      cases hfails
    obtain ⟨rfl, -⟩ := hmixed.refused hrefuses
    exact ⟨hrefuses, hnothing⟩

end Catalog

end ItemStore.Upload
