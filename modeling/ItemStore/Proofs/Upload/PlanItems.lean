import ItemStore.Upload.Plan
import Mathlib.Algebra.Ring.Nat
import Mathlib.Data.List.Forall2

/-! # Plans are complete

A plan exists only for a whole list of items. Each of them was checked and made its statement, and
together they stay within the payload cap.
-/
namespace ItemStore.Upload

/-- An item that is an object, fits the schema and makes the statement. -/
def Makes (p : Preset) (json : Json) (built : BuiltStatement) : Prop :=
  ∃ item, json = .object item ∧ validateItem p item = .ok () ∧ buildStatement p item = .ok built

def totalBytes (items : List Json) : Nat := (items.map fun json => json.render.utf8ByteSize).sum

/-- The plan has one statement for each item, in order, of a preset that can be used. -/
structure Plan.Complete (p : Preset) (installationMaxKB : Int) (items : List Json) (plan : Plan) :
    Prop where
  named : p.id ≠ "" ∧ p.table ≠ ""
  supported : p.operation.ensureSupported = .ok ()
  nonempty : items ≠ []
  made : List.Forall₂ (Makes p) items plan.statements
  payloadBytes : plan.payloadBytes = totalBytes items
  withinCap : plan.payloadBytes ≤ capBytes (p.effectiveMaxKB installationMaxKB)

section Items
variable {p : Preset} {maxKB : Int} {number used bytes : Nat} {json : Json} {rest items : List Json}
  {statements : List BuiltStatement}

theorem itemFields_eq_ok_iff {item : Item} :
    itemFields number json = .ok item ↔ json = .object item := by
  cases json <;> simp [itemFields]

/-- The first of some items makes the first statement, and the rest are planned after it. -/
theorem planItems_cons_eq_ok_iff :
    planItems p maxKB number used (json :: rest) = .ok (statements, bytes) ↔
      ∃ built later, Makes p json built ∧ used + json.render.utf8ByteSize ≤ capBytes maxKB ∧
        planItems p maxKB (number + 1) (used + json.render.utf8ByteSize) rest = .ok (later, bytes) ∧
        statements = built :: later := by
  simp only [planItems, Failure.bind_eq_ok_iff, Failure.mapError_eq_ok_iff, itemFields_eq_ok_iff]
  constructor
  · rintro ⟨item, rfl, ⟨⟩, hvalid, h⟩
    split at h
    · cases h
    · next hfits =>
      obtain ⟨built, hbuilt, h⟩ := Failure.bind_eq_ok_iff.mp h
      obtain ⟨⟨later, total⟩, hlater, h⟩ := Failure.bind_eq_ok_iff.mp h
      cases h
      exact ⟨built, later, ⟨item, rfl, hvalid, Failure.mapError_eq_ok_iff.mp hbuilt⟩,
        Nat.le_of_not_lt hfits, hlater, rfl⟩
  · rintro ⟨built, later, ⟨item, rfl, hvalid, hbuilt⟩, hfits, hlater, rfl⟩
    have hunder : ¬ capBytes maxKB < used + itemBytes item := Nat.not_lt.mpr hfits
    refine ⟨item, rfl, (), hvalid, ?_⟩
    rw [if_neg hunder, Failure.bind_eq_ok_iff]
    refine ⟨built, Failure.mapError_eq_ok_iff.mpr hbuilt, ?_⟩
    rw [Failure.bind_eq_ok_iff]
    exact ⟨(later, bytes), hlater, rfl⟩

theorem planItems_made (h : planItems p maxKB number used items = .ok (statements, bytes)) :
    List.Forall₂ (Makes p) items statements := by
  induction items generalizing number used statements with
  | nil =>
    cases h
    exact .nil
  | cons json rest ih =>
    obtain ⟨built, later, hmakes, -, hlater, rfl⟩ := planItems_cons_eq_ok_iff.mp h
    exact .cons hmakes (ih hlater)

theorem planItems_bytes (h : planItems p maxKB number used items = .ok (statements, bytes)) :
    bytes = used + totalBytes items := by
  induction items generalizing number used statements with
  | nil =>
    cases h
    rfl
  | cons json rest ih =>
    obtain ⟨built, later, -, -, hlater, rfl⟩ := planItems_cons_eq_ok_iff.mp h
    rw [ih hlater, totalBytes, totalBytes, List.map_cons, List.sum_cons, Nat.add_assoc]

/-- Each item is counted before its statement is made, so the cap holds for all of them. -/
theorem planItems_withinCap (h : planItems p maxKB number used items = .ok (statements, bytes))
    (hused : used ≤ capBytes maxKB) : bytes ≤ capBytes maxKB := by
  induction items generalizing number used statements with
  | nil =>
    cases h
    exact hused
  | cons json rest ih =>
    obtain ⟨built, later, -, hfits, hlater, rfl⟩ := planItems_cons_eq_ok_iff.mp h
    exact ih hlater hfits

theorem planItems_of_made (number : Nat) (hmade : List.Forall₂ (Makes p) items statements)
    (hcap : used + totalBytes items ≤ capBytes maxKB) :
    planItems p maxKB number used items = .ok (statements, used + totalBytes items) := by
  induction hmade generalizing number used with
  | nil => rfl
  | @cons json built rest later hmakes _ ih =>
    have hbytes : totalBytes (json :: rest) = json.render.utf8ByteSize + totalBytes rest := rfl
    rw [hbytes, ← Nat.add_assoc] at hcap ⊢
    rw [planItems_cons_eq_ok_iff]
    exact ⟨built, later, hmakes, Nat.le_trans (Nat.le_add_right _ _) hcap, ih _ hcap, rfl⟩

end Items

theorem buildPlan_complete {p : Preset} {installationMaxKB : Int} {items : List Json} {plan : Plan}
    (h : buildPlan p installationMaxKB items = .ok plan) :
    plan.Complete p installationMaxKB items := by
  unfold buildPlan at h
  split at h
  · cases h
  · next hid =>
    split at h
    · cases h
    · next htable =>
      obtain ⟨_, hsupported, h⟩ := Failure.bind_eq_ok_iff.mp h
      split at h
      · cases h
      · next hnonempty =>
        obtain ⟨⟨statements, bytes⟩, hplanned, h⟩ := Failure.bind_eq_ok_iff.mp h
        obtain rfl := Except.ok.inj h
        exact
          { named := ⟨hid, htable⟩
            supported := hsupported
            nonempty := by simpa using hnonempty
            made := planItems_made hplanned
            payloadBytes := by simpa using planItems_bytes hplanned
            withinCap := planItems_withinCap hplanned (Nat.zero_le _) }

theorem buildPlan_eq_ok_iff {p : Preset} {installationMaxKB : Int} {items : List Json} {plan : Plan} :
    buildPlan p installationMaxKB items = .ok plan ↔ plan.Complete p installationMaxKB items := by
  refine ⟨buildPlan_complete, fun h => ?_⟩
  have hbytes : 0 + totalBytes items = plan.payloadBytes := by rw [Nat.zero_add, h.payloadBytes]
  have hplanned := planItems_of_made 1 h.made (hbytes ▸ h.withinCap)
  have hitems : ¬ items.isEmpty := by simpa using h.nonempty
  rw [buildPlan, if_neg h.named.1, if_neg h.named.2, h.supported]
  change (if items.isEmpty then _ else _) = _
  rw [if_neg hitems, hplanned, hbytes]
  rfl

theorem Plan.Complete.length_statements {p : Preset} {installationMaxKB : Int} {items : List Json}
    {plan : Plan} (h : plan.Complete p installationMaxKB items) :
    plan.statements.length = items.length :=
  h.made.length_eq.symm

end ItemStore.Upload
