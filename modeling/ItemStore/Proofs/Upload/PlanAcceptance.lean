import ItemStore.Proofs.Upload.PlanItems

/-! # Which items make a plan

Items make a plan exactly if each of them makes a statement and together they stay within the payload
cap. Planning stops at the first item that does not, and the failure gives that item's number.
-/
namespace ItemStore.Upload

/-! ### Failures of the request -/

/-- A step that fails only because the request is at fault. -/
def FaultsRequest {α : Type} (step : Except Failure α) : Prop :=
  ∀ failure, step = .error failure → ∃ message, failure = .validation message

namespace FaultsRequest
variable {α β : Type}

theorem ok (a : α) : FaultsRequest (.ok a) := by
  intro failure h
  cases h

theorem validation (message : String) :
    FaultsRequest (.error (.validation message) : Except Failure α) := by
  intro failure h
  cases h
  exact ⟨message, rfl⟩

theorem bind {step : Except Failure α} {next : α → Except Failure β} (hstep : FaultsRequest step)
    (hnext : ∀ a, FaultsRequest (next a)) : FaultsRequest (step >>= next) := by
  intro failure h
  cases step with
  | error cause =>
    obtain ⟨message, rfl⟩ := hstep cause rfl
    cases h
    exact ⟨message, rfl⟩
  | ok a => exact hnext a failure h

theorem validateItem (p : Preset) (item : Item) : FaultsRequest (validateItem p item) := by
  unfold Upload.validateItem
  split
  · exact ok ()
  · split
    · exact validation _
    · split
      · exact ok ()
      · split
        · exact validation _
        · exact ok ()

theorem templateParameter (item : Item) (f : Field) : FaultsRequest (templateParameter item f) := by
  unfold Upload.templateParameter
  split
  · split
    · exact validation _
    · exact ok _
  · split
    · exact ok _
    · exact validation _

theorem templateParameters (item : Item) (fields : List Field) :
    FaultsRequest (templateParameters item fields) := by
  induction fields with
  | nil => exact ok []
  | cons f rest ih =>
    apply bind (templateParameter item f)
    intro value
    apply bind ih
    intro values
    exact ok _

theorem buildTemplated (p : Preset) (template : String) (item : Item) :
    FaultsRequest (buildTemplated p template item) := by
  unfold Upload.buildTemplated
  split
  · exact validation _
  · apply bind (templateParameters item p.schema)
    intro parameters
    dsimp only
    split
    · exact validation _
    · exact ok _

theorem buildUpdate (p : Preset) (item : Item) : FaultsRequest (buildUpdate p item) := by
  unfold Upload.buildUpdate
  split
  · exact validation _
  · dsimp only
    split
    · exact validation _
    · split
      · exact validation _
      · exact ok _

theorem buildStatement (p : Preset) (item : Item) : FaultsRequest (buildStatement p item) := by
  have hnonempty (built : BuiltStatement) :
      FaultsRequest (if item.isEmpty then .error emptyPayload else .ok built) := by
    split
    · exact validation _
    · exact ok built
  unfold Upload.buildStatement
  split
  · exact hnonempty _
  · exact buildUpdate p item
  · exact hnonempty _
  · exact ok _
  · exact validation _
  · exact buildTemplated p _ item

end FaultsRequest

/-! ### The payload cap -/

/-- Bytes within a cap: 1024 for each KB, and never more than a signed 64-bit word holds. -/
def Within (maxKB : Int) (bytes : Nat) : Prop := (bytes : Int) ≤ min (1024 * maxKB) Number.int64Max

theorem within_iff_le_capBytes {maxKB : Int} (h : 0 ≤ maxKB) (bytes : Nat) :
    Within maxKB bytes ↔ bytes ≤ capBytes maxKB := by
  simp only [Within, capBytes, Number.int64Max]
  omega

/-! ### The first item that is refused -/

/-- The item of that place makes a statement, and up to it the items stay within the cap, `used`
bytes being taken before them. -/
def Accepts (p : Preset) (maxKB : Int) (used : Nat) (items : List Json) (i : Nat) : Prop :=
  ∃ json built, items[i]? = some json ∧ Makes p json built ∧
    Within maxKB (used + totalBytes (items.take (i + 1)))

/-- Why an item is refused that brings the payload to `total` bytes. Its fields are looked at first,
then the payload, and then the statement. -/
inductive Refuses (p : Preset) (maxKB : Int) (number total : Nat) : Json → String → Prop
  | empty : Refuses p maxKB number total .null ("item " ++ toString number ++ " is empty")
  | notAnObject {json : Json} (hnull : json ≠ .null) (hobject : ∀ item, json ≠ .object item) :
    Refuses p maxKB number total json ("item " ++ toString number ++ " must be a JSON object")
  | invalid {item : Item} {reason : String}
    (hinvalid : validateItem p item = .error (.validation reason)) :
    Refuses p maxKB number total (.object item) ("item " ++ toString number ++ ": " ++ reason)
  | oversize {item : Item} {kb : Nat} (hvalid : validateItem p item = .ok ())
    (hover : ¬ Within maxKB total) (hcovers : total ≤ 1024 * kb) (hleast : 1024 * kb < total + 1024)
    (habove : 1024 * maxKB ≤ Number.int64Max → maxKB < kb) :
    Refuses p maxKB number total (.object item)
      ("payload exceeds maximum size of " ++ String.ofList (Number.intText maxKB) ++ " KB (item " ++
        toString number ++ " pushed total to " ++ toString kb ++ " KB)")
  | unbuildable {item : Item} {reason : String} (hvalid : validateItem p item = .ok ())
    (hwithin : Within maxKB total)
    (hunbuildable : buildStatement p item = .error (.validation reason)) :
    Refuses p maxKB number total (.object item) ("item " ++ toString number ++ ": " ++ reason)

section Items
variable {p : Preset} {maxKB : Int} {number used total : Nat} {json : Json} {rest items : List Json}
  {failure : Failure}

theorem Refuses.not_made {message : String} (h : Refuses p maxKB number total json message) :
    ¬ ((∃ built, Makes p json built) ∧ Within maxKB total) := by
  rintro ⟨⟨built, item, rfl, hvalid, hbuilt⟩, hwithin⟩
  cases h with
  | notAnObject _ hobject => exact hobject item rfl
  | invalid hinvalid => cases hinvalid.symm.trans hvalid
  | oversize _ hover => exact hover hwithin
  | unbuildable _ _ hunbuildable => cases hunbuildable.symm.trans hbuilt

theorem Refuses.of_itemFields (h : itemFields number json = .error failure) :
    ∃ message, failure = .validation message ∧ Refuses p maxKB number total json message := by
  cases json with
  | object item => cases h
  | null =>
    cases h
    exact ⟨_, rfl, .empty⟩
  | _ =>
    cases h
    exact ⟨_, rfl, .notAnObject (by simp) (by simp)⟩

/-- The KB that are reported of a payload which is too large are its bytes rounded up, so they exceed
the cap as the bytes do. -/
theorem Refuses.of_not_within {item : Item} (hvalid : validateItem p item = .ok ())
    (hover : ¬ Within maxKB total) :
    Refuses p maxKB number total (.object item)
      ("payload exceeds maximum size of " ++ String.ofList (Number.intText maxKB) ++ " KB (item " ++
        toString number ++ " pushed total to " ++ toString ((total + 1023) / 1024) ++ " KB)") := by
  refine .oversize hvalid hover ?covers ?least ?above
  case covers => omega
  case least => omega
  case above =>
    intro hfits
    rw [Within, Int.min_eq_left hfits] at hover
    omega

theorem totalBytes_cons (json : Json) (rest : List Json) :
    totalBytes (json :: rest) = json.render.utf8ByteSize + totalBytes rest := rfl

theorem accepts_zero_iff : Accepts p maxKB used (json :: rest) 0 ↔
    (∃ built, Makes p json built) ∧ Within maxKB (used + json.render.utf8ByteSize) := by
  simp [Accepts, totalBytes]

theorem accepts_succ_iff {i : Nat} : Accepts p maxKB used (json :: rest) (i + 1) ↔
    Accepts p maxKB (used + json.render.utf8ByteSize) rest i := by
  simp only [Accepts, List.getElem?_cons_succ, List.take_succ_cons, totalBytes_cons, Nat.add_assoc]

/-- The first of some items is refused, or it makes its statement and a later one fails. -/
theorem refuses_of_planItems_cons (hcap : 0 ≤ maxKB)
    (h : planItems p maxKB number used (json :: rest) = .error failure) :
    (∃ message, failure = .validation message ∧
      Refuses p maxKB number (used + json.render.utf8ByteSize) json message) ∨
    ((∃ built, Makes p json built) ∧ Within maxKB (used + json.render.utf8ByteSize) ∧
      planItems p maxKB (number + 1) (used + json.render.utf8ByteSize) rest = .error failure) := by
  rw [planItems, Failure.bind_eq_error_iff] at h
  obtain hfields | ⟨item, hfields, h⟩ := h
  · exact .inl (Refuses.of_itemFields hfields)
  obtain rfl := itemFields_eq_ok_iff.mp hfields
  obtain herror | ⟨_, hvalid, h⟩ := Failure.bind_eq_error_iff.mp h
  · obtain ⟨cause, hinvalid, rfl⟩ := Failure.mapError_eq_error_iff.mp herror
    obtain ⟨reason, rfl⟩ := FaultsRequest.validateItem p item cause hinvalid
    exact .inl ⟨_, rfl, .invalid hinvalid⟩
  have hvalid : validateItem p item = .ok () := Failure.mapError_eq_ok_iff.mp hvalid
  have hwithin : Within maxKB (used + itemBytes item) ↔ used + itemBytes item ≤ capBytes maxKB :=
    within_iff_le_capBytes hcap _
  dsimp only at h
  split at h
  · next hover =>
    cases h
    have hover : ¬ Within maxKB (used + itemBytes item) := by
      rw [hwithin]
      exact Nat.not_le.mpr hover
    exact .inl ⟨_, rfl, .of_not_within hvalid hover⟩
  · next hfits =>
    have hin : Within maxKB (used + itemBytes item) := hwithin.mpr (Nat.not_lt.mp hfits)
    obtain herror | ⟨built, hbuilt, h⟩ := Failure.bind_eq_error_iff.mp h
    · obtain ⟨cause, hunbuildable, rfl⟩ := Failure.mapError_eq_error_iff.mp herror
      obtain ⟨reason, rfl⟩ := FaultsRequest.buildStatement p item cause hunbuildable
      exact .inl ⟨_, rfl, .unbuildable hvalid hin hunbuildable⟩
    · have hbuilt : buildStatement p item = .ok built := Failure.mapError_eq_ok_iff.mp hbuilt
      obtain hlater | ⟨later, -, h⟩ := Failure.bind_eq_error_iff.mp h
      · exact .inr ⟨⟨built, item, rfl, hvalid, hbuilt⟩, hin, hlater⟩
      · cases h

/-- Planning fails at the first item that is refused, every item before it being accepted. -/
theorem exists_refused_of_planItems (hcap : 0 ≤ maxKB)
    (h : planItems p maxKB number used items = .error failure) :
    ∃ i json message, items[i]? = some json ∧ (∀ j < i, Accepts p maxKB used items j) ∧
      failure = .validation message ∧
      Refuses p maxKB (number + i) (used + totalBytes (items.take (i + 1))) json message := by
  induction items generalizing number used with
  | nil => cases h
  | cons first rest ih =>
    obtain ⟨message, rfl, hrefuses⟩ | ⟨hmade, hwithin, hlater⟩ := refuses_of_planItems_cons hcap h
    · exact ⟨0, first, message, rfl, by simp, rfl, hrefuses⟩
    · obtain ⟨i, json, message, hjson, hbefore, rfl, hrefuses⟩ := ih hlater
      refine ⟨i + 1, json, message, hjson, ?_, rfl, ?_⟩
      · intro j hj
        cases j with
        | zero => exact accepts_zero_iff.mpr ⟨hmade, hwithin⟩
        | succ j => exact accepts_succ_iff.mpr (hbefore j (Nat.lt_of_succ_lt_succ hj))
      · rw [List.take_succ_cons, totalBytes_cons, ← Nat.add_assoc, ← Nat.add_assoc,
          Nat.add_right_comm number i 1]
        exact hrefuses

theorem accepts_of_planItems {planned : List BuiltStatement × Nat} (hcap : 0 ≤ maxKB)
    (h : planItems p maxKB number used items = .ok planned) :
    ∀ i < items.length, Accepts p maxKB used items i := by
  obtain ⟨statements, bytes⟩ := planned
  induction items generalizing number used statements with
  | nil => simp
  | cons first rest ih =>
    obtain ⟨built, later, hmade, hfits, hlater, rfl⟩ := planItems_cons_eq_ok_iff.mp h
    intro i hi
    cases i with
    | zero => exact accepts_zero_iff.mpr ⟨⟨built, hmade⟩, (within_iff_le_capBytes hcap _).mpr hfits⟩
    | succ i => exact accepts_succ_iff.mpr (ih later hlater i (Nat.lt_of_succ_lt_succ hi))

/-- An item that is refused is not accepted at its place. -/
theorem Refuses.not_accepts {i : Nat} {message : String} (hjson : items[i]? = some json)
    (h : Refuses p maxKB number (used + totalBytes (items.take (i + 1))) json message) :
    ¬ Accepts p maxKB used items i := by
  rintro ⟨other, built, hother, hmakes, hwithin⟩
  obtain rfl := Option.some.inj (hjson.symm.trans hother)
  exact h.not_made ⟨⟨built, hmakes⟩, hwithin⟩

theorem exists_planItems_iff (hcap : 0 ≤ maxKB) :
    (∃ planned, planItems p maxKB number used items = .ok planned) ↔
      ∀ i < items.length, Accepts p maxKB used items i := by
  constructor
  · rintro ⟨planned, h⟩
    exact accepts_of_planItems hcap h
  · intro haccepts
    cases h : planItems p maxKB number used items with
    | ok planned => exact ⟨planned, rfl⟩
    | error failure =>
      obtain ⟨i, json, message, hjson, -, -, hrefuses⟩ := exists_refused_of_planItems hcap h
      have hi : i < items.length := (List.getElem?_eq_some_iff.mp hjson).1
      exact absurd (haccepts i hi) (hrefuses.not_accepts hjson)

end Items

/-! ### Whole plans -/

def Preset.Usable (p : Preset) : Prop :=
  p.id ≠ "" ∧ p.table ≠ "" ∧ ∀ word, p.operation ≠ .unsupported word

theorem Operation.ensureSupported_eq_ok {operation : Operation}
    (h : ∀ word, operation ≠ .unsupported word) : operation.ensureSupported = .ok () := by
  cases operation with
  | unsupported word => exact absurd rfl (h word)
  | _ => rfl

structure Planned (p : Preset) (installationMaxKB : Int) (items : List Json)
    (result : Except Failure Plan) : Prop where
  accepted_iff : (∃ plan, result = .ok plan) ↔
    p.Usable ∧ items ≠ [] ∧
      ∀ i < items.length, Accepts p (p.effectiveMaxKB installationMaxKB) 0 items i
  statements : ∀ plan, result = .ok plan → List.Forall₂ (Makes p) items plan.statements
  payloadBytes : ∀ plan, result = .ok plan → plan.payloadBytes = totalBytes items
  withinInstallation : ∀ plan, result = .ok plan → 0 < installationMaxKB →
    (plan.payloadBytes : Int) ≤ 1024 * installationMaxKB
  refused : ∀ failure, result = .error failure → p.Usable → items ≠ [] →
    ∃ i json message, items[i]? = some json ∧ failure = .validation message ∧
      Refuses p (p.effectiveMaxKB installationMaxKB) (i + 1) (totalBytes (items.take (i + 1))) json
        message ∧
      (∀ j < i, Accepts p (p.effectiveMaxKB installationMaxKB) 0 items j) ∧
      ¬ Accepts p (p.effectiveMaxKB installationMaxKB) 0 items i

section Plans
variable {p : Preset} {items : List Json} {plan : Plan}

theorem buildPlan_of_usable (installationMaxKB : Int) (husable : p.Usable) (hitems : items ≠ []) :
    buildPlan p installationMaxKB items =
      (planItems p (p.effectiveMaxKB installationMaxKB) 1 0 items).map fun planned =>
        ⟨planned.1, planned.2⟩ := by
  obtain ⟨hid, htable, hoperation⟩ := husable
  have hnonempty : ¬ items.isEmpty := by simpa using hitems
  rw [buildPlan, if_neg hid, if_neg htable, Operation.ensureSupported_eq_ok hoperation]
  change (if items.isEmpty then _ else _) = _
  rw [if_neg hnonempty]
  cases planItems p (p.effectiveMaxKB installationMaxKB) 1 0 items <;> rfl

theorem Plan.Complete.usable {installationMaxKB : Int}
    (h : plan.Complete p installationMaxKB items) : p.Usable := by
  refine ⟨h.named.1, h.named.2, ?_⟩
  intro word hword
  have hsupported := h.supported
  rw [hword] at hsupported
  cases hsupported

/-- The cap of the installation holds for every preset, its own cap being none or larger. -/
theorem Plan.Complete.le_installation {installationMaxKB : Int}
    (h : plan.Complete p installationMaxKB items) (hset : 0 < installationMaxKB) :
    (plan.payloadBytes : Int) ≤ 1024 * installationMaxKB := by
  have hpos := p.effectiveMaxKB_pos installationMaxKB
  have hle := p.effectiveMaxKB_le hset
  have hwithin := (within_iff_le_capBytes (Int.le_of_lt hpos) plan.payloadBytes).mpr h.withinCap
  calc (plan.payloadBytes : Int)
      ≤ 1024 * p.effectiveMaxKB installationMaxKB := Int.le_trans hwithin (Int.min_le_left _ _)
    _ ≤ 1024 * installationMaxKB := by omega

end Plans

theorem planned_buildPlan (p : Preset) (installationMaxKB : Int) (items : List Json) :
    Planned p installationMaxKB items (buildPlan p installationMaxKB items) where
  accepted_iff := by
    have hcap := Int.le_of_lt (p.effectiveMaxKB_pos installationMaxKB)
    constructor
    · rintro ⟨plan, hplan⟩
      have hcomplete := buildPlan_complete hplan
      have husable := hcomplete.usable
      rw [buildPlan_of_usable installationMaxKB husable hcomplete.nonempty] at hplan
      obtain ⟨planned, hplanned, -⟩ := Failure.map_eq_ok_iff.mp hplan
      exact ⟨husable, hcomplete.nonempty, accepts_of_planItems hcap hplanned⟩
    · rintro ⟨husable, hitems, haccepts⟩
      obtain ⟨planned, hplanned⟩ := (exists_planItems_iff hcap).mpr haccepts
      rw [buildPlan_of_usable installationMaxKB husable hitems, hplanned]
      exact ⟨_, rfl⟩
  statements := by
    intro plan hplan
    exact (buildPlan_complete hplan).made
  payloadBytes := by
    intro plan hplan
    exact (buildPlan_complete hplan).payloadBytes
  withinInstallation := by
    intro plan hplan hset
    exact (buildPlan_complete hplan).le_installation hset
  refused := by
    intro failure hfailure husable hitems
    have hcap := Int.le_of_lt (p.effectiveMaxKB_pos installationMaxKB)
    rw [buildPlan_of_usable installationMaxKB husable hitems, Failure.map_eq_error_iff] at hfailure
    obtain ⟨i, json, message, hjson, hbefore, rfl, hrefuses⟩ :=
      exists_refused_of_planItems hcap hfailure
    have hnot := hrefuses.not_accepts hjson
    rw [Nat.zero_add, Nat.add_comm] at hrefuses
    exact ⟨i, json, message, hjson, rfl, hrefuses, hbefore, hnot⟩

/-- The second of two items is blamed, though the first is planned. -/
example :
    let p : Preset := { id := "bulk", table := "T", operation := .insert, maxPayloadKB := 1 }
    (match buildPlan p 0 [.object [("a", .bool true)], .null] with
    | .error failure => failure.text
    | .ok _ => "") = "item 2 is empty" := by decide +kernel

end ItemStore.Upload
