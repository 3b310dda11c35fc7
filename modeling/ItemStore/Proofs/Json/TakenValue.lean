import ItemStore.Proofs.Json.Lossless
import ItemStore.Proofs.Json.NumberRange

/-! # What is taken from a text

A value that is taken from a text has each field of an object once and is nested no deeper than
allowed, however often a member was written. So it is one that can be written and taken again.
-/
namespace ItemStore.Json

section Parts
variable {items : List Json} {fields : List (String × Json)} {levels : Nat}

theorem itemsDepth_le_iff : itemsDepth items ≤ levels ↔ ∀ v ∈ items, v.depth ≤ levels := by
  induction items with
  | nil => simp [itemsDepth]
  | cons v rest ih => rw [itemsDepth, Nat.max_le, List.forall_mem_cons, ih]

theorem fieldsDepth_le_iff :
    fieldsDepth fields ≤ levels ↔ ∀ field ∈ fields, field.2.depth ≤ levels := by
  induction fields with
  | nil => simp [fieldsDepth]
  | cons field rest ih => rw [fieldsDepth, Nat.max_le, List.forall_mem_cons, ih]

/-- What stands in a list that is not too deep is not too deep one level below it. -/
theorem exists_of_depth_array_le (h : (Json.array items).depth ≤ levels) :
    ∃ inner, levels = inner + 1 ∧ ∀ v ∈ items, v.depth ≤ inner := by
  obtain ⟨inner, rfl⟩ := Nat.exists_eq_add_of_le' (Nat.le_trans (Nat.le_add_left 1 _) h)
  exact ⟨inner, rfl, itemsDepth_le_iff.mp (Nat.le_of_succ_le_succ h)⟩

theorem exists_of_depth_object_le (h : (Json.object fields).depth ≤ levels) :
    ∃ inner, levels = inner + 1 ∧ ∀ field ∈ fields, field.2.depth ≤ inner := by
  obtain ⟨inner, rfl⟩ := Nat.exists_eq_add_of_le' (Nat.le_trans (Nat.le_add_left 1 _) h)
  exact ⟨inner, rfl, fieldsDepth_le_iff.mp (Nat.le_of_succ_le_succ h)⟩

theorem depth_array_le (h : ∀ v ∈ items, v.depth ≤ levels) : (Json.array items).depth ≤ levels + 1 :=
  Nat.succ_le_succ (itemsDepth_le_iff.mpr h)

theorem depth_object_le (h : ∀ field ∈ fields, field.2.depth ≤ levels) :
    (Json.object fields).depth ≤ levels + 1 := Nat.succ_le_succ (fieldsDepth_le_iff.mpr h)

theorem distinctItems_iff : DistinctItems items ↔ ∀ v ∈ items, v.Distinct := by
  induction items with
  | nil => simp [DistinctItems]
  | cons v rest ih => rw [DistinctItems, List.forall_mem_cons, ih]

theorem distinctFields_iff : DistinctFields fields ↔ ∀ field ∈ fields, field.2.Distinct := by
  induction fields with
  | nil => simp [DistinctFields]
  | cons field rest ih => rw [DistinctFields, List.forall_mem_cons, ih]

end Parts

/-- The value can be written in a place that allows as many levels, and taken again from there. -/
structure Taken (levels : Nat) (json : Json) : Prop where
  inRange : json.InRange
  distinct : json.Distinct
  depth_le : json.depth ≤ levels

section Kinds
variable {items : List Json} {fields : List (String × Json)} {levels : Nat}

theorem Taken.array (h : ∀ v ∈ items, v.Taken levels) : (Json.array items).Taken (levels + 1) where
  inRange := .array fun v hv => (h v hv).inRange
  distinct := distinctItems_iff.mpr fun v hv => (h v hv).distinct
  depth_le := depth_array_le fun v hv => (h v hv).depth_le

theorem Taken.object (hnames : (Entries.names fields).Nodup)
    (h : ∀ field ∈ fields, field.2.Taken levels) : (Json.object fields).Taken (levels + 1) where
  inRange := .object fun name v hmem => (h (name, v) hmem).inRange
  distinct := ⟨hnames, distinctFields_iff.mpr fun field hmem => (h field hmem).distinct⟩
  depth_le := depth_object_le fun field hmem => (h field hmem).depth_le

theorem Taken.value?_toWritten {json : Json} (h : json.Taken levels) :
    json.toWritten.value? levels = some json := by
  rw [Json.value?_toWritten h.distinct, if_pos h.depth_le]

end Kinds

namespace Written

mutual

theorem InRange.taken {w : Written} (h : w.InRange) {levels : Nat} {json : Json}
    (hvalue : w.value? levels = some json) : json.Taken levels := by
  match w, h with
  | .null, _ =>
    cases hvalue
    exact ⟨.null, trivial, Nat.zero_le _⟩
  | .bool b, _ =>
    cases hvalue
    exact ⟨.bool b, trivial, Nat.zero_le _⟩
  | .number n, .number h =>
    obtain ⟨number, hn, rfl⟩ := Option.map_eq_some_iff.mp hvalue
    exact ⟨.number (h number hn), trivial, Nat.zero_le _⟩
  | .string s, _ =>
    obtain ⟨text, -, rfl⟩ := Option.map_eq_some_iff.mp hvalue
    exact ⟨.string text, trivial, Nat.zero_le _⟩
  | .array items, .array h | .openArray items, .openArray h =>
    match levels with
    | 0 => cases hvalue
    | levels + 1 =>
      obtain ⟨values, hvalues, rfl⟩ := Option.map_eq_some_iff.mp hvalue
      exact .array (values?_taken h hvalues)
  | .object members, .object h =>
    match levels with
    | 0 => cases hvalue
    | levels + 1 =>
      obtain ⟨fields, hfields, rfl⟩ := Option.map_eq_some_iff.mp hvalue
      refine .object (Entries.nodup_ofPairs fields) fun field hmem => ?_
      exact fields?_taken h hfields field (Entries.mem_of_mem_ofPairs hmem)

theorem values?_taken {items : List Written} (h : ∀ item ∈ items, item.InRange) {levels : Nat}
    {values : List Json} (hvalues : values? levels items = some values) :
    ∀ value ∈ values, value.Taken levels := by
  match items with
  | [] =>
    cases hvalues
    simp
  | item :: rest =>
    obtain ⟨hitem, hrest⟩ := List.forall_mem_cons.mp h
    obtain ⟨first, hfirst, hbind⟩ := Option.bind_eq_some_iff.mp hvalues
    obtain ⟨others, hothers, hsome⟩ := Option.bind_eq_some_iff.mp hbind
    cases hsome
    exact List.forall_mem_cons.mpr ⟨hitem.taken hfirst, values?_taken hrest hothers⟩

theorem fields?_taken {members : List (Option String × Written)}
    (h : ∀ name value, (name, value) ∈ members → value.InRange) {levels : Nat}
    {fields : List (String × Json)} (hfields : fields? levels members = some fields) :
    ∀ field ∈ fields, field.2.Taken levels := by
  match members with
  | [] =>
    cases hfields
    simp
  | (name, w) :: rest =>
    obtain ⟨text, -, hvalue⟩ := Option.bind_eq_some_iff.mp hfields
    obtain ⟨first, hfirst, hbind⟩ := Option.bind_eq_some_iff.mp hvalue
    obtain ⟨others, hothers, hsome⟩ := Option.bind_eq_some_iff.mp hbind
    cases hsome
    refine List.forall_mem_cons.mpr ⟨(h name w List.mem_cons_self).taken hfirst, ?_⟩
    exact fields?_taken (fun name w hw => h name w (List.mem_cons_of_mem _ hw)) hothers

end

end Written

theorem taken_of_parse? {text : String} {json : Json} (h : parse? text = some json) :
    json.Taken maxLevels := by
  obtain ⟨w, hw, hvalue⟩ := Option.bind_eq_some_iff.mp h
  exact (Written.inRange_of_read? hw).taken hvalue

end ItemStore.Json
