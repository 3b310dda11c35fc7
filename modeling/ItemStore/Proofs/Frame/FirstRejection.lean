import ItemStore.Proofs.Frame.LaterValues
import ItemStore.Proofs.Frame.RejectedRow
import ItemStore.Proofs.Value.Readable

/-! # The first value that is rejected

Rows make no frame exactly if some value in them is rejected, and the failure names the first one:
that of the first row, and in its row the first in its order. Whether a value is rejected is up to its
own attribute, since the column that refuses it holds what the earlier rows have under the same name.
So what follows the value plays no part, and the rows before it make a frame.
-/
namespace ItemStore

/-! ### Reasons to reject a value -/

def Failure.IsDecode (failure : Failure) : Prop := ∃ message, failure = .decode message

theorem Failure.exists_of_mapM_eq_error {α β : Type} {f : α → Except Failure β} {l : List α}
    {failure : Failure} (h : l.mapM f = .error failure) : ∃ a ∈ l, f a = .error failure := by
  induction l with
  | nil => cases h
  | cons a rest ih =>
    rw [List.mapM_cons] at h
    rcases Failure.bind_eq_error_iff.mp h with ha | ⟨b, -, h⟩
    · exact ⟨a, List.mem_cons_self, ha⟩
    · rcases Failure.bind_eq_error_iff.mp h with hrest | ⟨bs, -, h⟩
      · obtain ⟨other, hmem, hother⟩ := ih hrest
        exact ⟨other, List.mem_cons_of_mem _ hmem, hother⟩
      · cases h

section Reasons
variable {failure : Failure} {format : TimeFormat} {text : String} {i : Int}

theorem TimeFormat.isDecode_of_readText (h : format.readText text = .error failure) :
    failure.IsDecode := by
  unfold readText at h
  cases format with
  | layout hint =>
    dsimp only at h
    split at h
    · cases h
    · cases h
      exact ⟨_, rfl⟩
  | unixSeconds | unixMillis =>
    cases h
    exact ⟨_, rfl⟩

theorem Failure.isDecode_of_elim {α : Type} {found : Option α} {message : String}
    (h : found.elim (Except.error (.decode message)) .ok = .error failure) : failure.IsDecode := by
  cases found with
  | some a => cases h
  | none =>
    cases h
    exact ⟨message, rfl⟩

theorem TimeFormat.isDecode_of_readEpoch (h : format.readEpoch i = .error failure) :
    failure.IsDecode := by
  cases format with
  | layout hint =>
    cases h
    exact ⟨_, rfl⟩
  | unixSeconds | unixMillis => exact Failure.isDecode_of_elim h

theorem JsonNumber.isDecode_of_ofText (h : JsonNumber.ofText text = .error failure) :
    failure.IsDecode := by
  unfold ofText at h
  split at h
  · cases h
  · cases h
  · cases h
    exact ⟨_, rfl⟩

theorem Value.isDecode_of_numberToJson (h : Value.numberToJson text = .error failure) :
    failure.IsDecode := by
  unfold numberToJson at h
  split at h
  · cases h
  · split at h
    · cases h
      exact ⟨_, rfl⟩
    · split at h
      · cases h
      · cases h
        exact ⟨_, rfl⟩

/-- Only a number in a value can have no JSON form, and nothing is put before the reason. -/
theorem Value.isDecode_of_toJson :
    ∀ (value : Value) {failure : Failure}, value.toJson = .error failure → failure.IsDecode
  | .number n, failure, h => by
    rw [toJson] at h
    exact isDecode_of_numberToJson h
  | .map entries, failure, h => by
    rw [toJson, Failure.map_eq_error_iff, toJsonEntries_eq_mapM] at h
    obtain ⟨⟨name, part⟩, hmem, hpart⟩ := Failure.exists_of_mapM_eq_error h
    have hentry := List.sizeOf_lt_of_mem hmem
    have hsize : sizeOf part < sizeOf (name, part) := by
      rw [Prod.mk.sizeOf_spec]
      omega
    exact isDecode_of_toJson part (Failure.map_eq_error_iff.mp hpart)
  | .list items, failure, h => by
    rw [toJson, Failure.map_eq_error_iff, toJsonItems_eq_mapM] at h
    obtain ⟨item, hmem, hitem⟩ := Failure.exists_of_mapM_eq_error h
    have hsize := List.sizeOf_lt_of_mem hmem
    exact isDecode_of_toJson item hitem
  | .numberSet items, failure, h => by
    rw [toJson, Failure.map_eq_error_iff, numbersToJson_eq_mapM] at h
    obtain ⟨item, -, hitem⟩ := Failure.exists_of_mapM_eq_error h
    exact isDecode_of_numberToJson hitem
  | .string s, failure, h | .binary bytes, failure, h | .bool b, failure, h | .null, failure, h
  | .stringSet items, failure, h | .binarySet items, failure, h => by
    rw [toJson] at h
    cases h
termination_by value => sizeOf value
decreasing_by
  · simp only [Value.map.sizeOf_spec]
    omega
  · simp only [Value.list.sizeOf_spec]
    omega

theorem Cell.isDecode_of_ofValue {value : Value} {format : Option TimeFormat}
    (h : Cell.ofValue value format = .error failure) : failure.IsDecode := by
  cases value with
  | string s =>
    simp only [ofValue] at h
    split at h
    · rcases Failure.bind_eq_error_iff.mp h with h | ⟨t, -, h⟩
      · exact TimeFormat.isDecode_of_readText h
      · cases h
    · cases h
  | number n =>
    rcases Failure.bind_eq_error_iff.mp h with h | ⟨number, -, h⟩
    · exact JsonNumber.isDecode_of_ofText h
    · split at h
      · rcases Failure.bind_eq_error_iff.mp h with h | ⟨t, -, h⟩
        · exact TimeFormat.isDecode_of_readEpoch h
        · cases h
      · cases h
      · cases h
  | binary bytes | binarySet items | bool b | null => cases h
  | map entries | list items | stringSet items | numberSet items =>
    simp only [ofValue, Failure.map_eq_error_iff] at h
    exact Value.isDecode_of_toJson _ h

end Reasons

namespace GrowingColumn
variable {name : String} {format : Option TimeFormat} {values : List (Option Value)} {value : Value}
  {c : GrowingColumn} {failure : Failure}

/-- A value is refused after the values that its attribute has in the rows before: by itself if it is
the first, and else by the column that the others made. -/
inductive Refuses (name : String) (format : Option TimeFormat) (values : List (Option Value))
    (value : Value) (failure : Failure) : Prop
  | first (absent : ∀ v ∈ values, Absent v) (h : Cell.ofValue value format = .error failure)
  | later {c : GrowingColumn} (run : Run name format values c) (h : c.append value = .error failure)

theorem Refuses.ofValue_eq (h : Refuses name format values value failure) :
    Cell.ofValue value format = .error failure := by
  cases h with
  | first absent h => exact h
  | later run h => rw [← run.named.2]; exact ofValue_eq_error_of_append h

theorem start_eq_error_iff {row : Nat} :
    GrowingColumn.start row name value format = .error failure ↔
      Cell.ofValue value format = .error failure := by
  rw [GrowingColumn.start]
  cases Cell.ofValue value format <;> simp [bind, Except.bind]

theorem Run.not_absent (h : Run name format values c) : ¬ ∀ v ∈ values, Absent v := by
  induction h with
  | @start before value c absent h =>
    intro hall
    rcases hall (some value) (by simp) with hnone | hnull
    · cases hnone
    · cases hnull
      cases h
  | append run h ih => exact fun hall => ih fun v hv => hall v (List.mem_append_left _ hv)
  | pad run ih => exact fun hall => ih fun v hv => hall v (List.mem_append_left _ hv)

theorem Run.unique {others : List (Option Value)} {other : GrowingColumn}
    (h : Run name format values c) (hother : Run name format others other) (hsame : others = values) :
    other = c := by
  induction h generalizing others other with
  | @start before value c absent h =>
    cases hother with
    | start _ hother =>
      obtain ⟨rfl, hvalue⟩ := List.append_inj' hsame rfl
      cases hvalue
      rw [h] at hother
      cases hother
      rfl
    | append run _ =>
      obtain ⟨rfl, -⟩ := List.append_inj' hsame rfl
      exact absurd absent run.not_absent
    | pad run =>
      obtain ⟨-, hvalue⟩ := List.append_inj' hsame rfl
      cases hvalue
  | @append before value c after run h ih =>
    cases hother with
    | start absent _ =>
      obtain ⟨rfl, -⟩ := List.append_inj' hsame rfl
      exact absurd absent run.not_absent
    | append run' h' =>
      obtain ⟨rfl, hvalue⟩ := List.append_inj' hsame rfl
      cases hvalue
      rw [ih run' rfl, h] at h'
      cases h'
      rfl
    | pad run' =>
      obtain ⟨-, hvalue⟩ := List.append_inj' hsame rfl
      cases hvalue
  | @pad before c run ih =>
    cases hother with
    | start _ _ =>
      obtain ⟨-, hvalue⟩ := List.append_inj' hsame rfl
      cases hvalue
    | append _ _ =>
      obtain ⟨-, hvalue⟩ := List.append_inj' hsame rfl
      cases hvalue
    | pad run' =>
      obtain ⟨rfl, -⟩ := List.append_inj' hsame rfl
      rw [ih run' rfl]

end GrowingColumn

namespace FrameBuilder
open GrowingColumn (Refuses)
variable {b after : FrameBuilder} {name : String} {value : Value} {row done : Row} {rows : List Row}
  {failure cause : Failure} {format : Option TimeFormat} {values : List (Option Value)}

/-! ### One value and one row -/

theorem Follows.grown_eq_error_iff (h : b.Follows name format values) :
    b.grown name value = .error cause ↔ Refuses name format values value cause := by
  rw [grown]
  cases hfind : b.columns.find? name with
  | some c =>
    have hrun := h.column c hfind
    simp only [Failure.map_eq_error_iff]
    constructor
    · exact .later hrun
    · rintro (⟨absent, -⟩ | ⟨run, hrefused⟩)
      · exact absurd absent hrun.not_absent
      · rwa [run.unique hrun rfl]
  | none =>
    simp only [GrowingColumn.start_eq_error_iff, h.hint]
    constructor
    · exact .first (h.absent hfind)
    · exact Refuses.ofValue_eq

def place (field : String) (row : Nat) : String :=
  "attribute " ++ field ++ " at row " ++ String.ofList (Number.natText row)

theorem pushValue_eq_error_iff :
    b.pushValue name value = .error failure ↔
      ∃ cause, b.grown name value = .error cause ∧ cause.inContext (place name b.rows) = failure := by
  simp only [pushValue_eq, Failure.mapError_eq_error_iff, Failure.map_eq_error_iff, place]

theorem grown_of_pushValues (distinct : done.names.Nodup) (fresh : name ∉ done.names)
    (h : b.pushValues done = (.ok (), after)) : after.grown name value = b.grown name value := by
  obtain ⟨hrows, hformats, hcolumn⟩ := pushValues_spec name distinct h
  rw [Entries.find?_eq_none_iff.mpr fresh] at hcolumn
  simp only at hcolumn
  simp only [grown, hcolumn, hrows, hformats]

theorem nodup_of_split {rest : Row} (distinct : Entries.names (done ++ (name, value) :: rest) |>.Nodup) :
    done.names.Nodup ∧ name ∉ done.names := by
  rw [Entries.names_append, List.nodup_append] at distinct
  exact ⟨distinct.1, fun hmem => distinct.2.2 name hmem name (by simp) rfl⟩

/-- A row is rejected exactly if one of its values is refused, and the failure is that of the first. -/
theorem exists_pushRow_eq_error_iff (distinct : row.names.Nodup) :
    (∃ after, b.pushRow row = (.error failure, after)) ↔
      ∃ done name value rest cause, row = done ++ (name, value) :: rest ∧
        (∃ after, b.pushValues done = (.ok (), after)) ∧
        b.grown name value = .error cause ∧ cause.inContext (place name b.rows) = failure := by
  simp only [pushRow_eq_error_iff, pushValues_eq_error_iff, pushValue_eq_error_iff]
  constructor
  · rintro ⟨after, done, name, value, rest, rfl, hdone, cause, hcause, rfl⟩
    obtain ⟨hdistinct, fresh⟩ := nodup_of_split distinct
    rw [grown_of_pushValues hdistinct fresh hdone] at hcause
    rw [(pushValues_spec name hdistinct hdone).1]
    exact ⟨done, name, value, rest, cause, rfl, ⟨after, hdone⟩, hcause, rfl⟩
  · rintro ⟨done, name, value, rest, cause, rfl, ⟨after, hdone⟩, hcause, rfl⟩
    obtain ⟨hdistinct, fresh⟩ := nodup_of_split distinct
    rw [← grown_of_pushValues hdistinct fresh hdone] at hcause
    rw [← (pushValues_spec name hdistinct hdone).1]
    exact ⟨after, done, name, value, rest, rfl, hdone, cause, hcause, rfl⟩

theorem exists_pushValues_iff (distinct : row.names.Nodup) :
    (∃ after, b.pushValues row = (.ok (), after)) ↔
      ∀ name value, (name, value) ∈ row → ∀ cause, b.grown name value ≠ .error cause := by
  constructor
  · rintro ⟨after, hafter⟩ name value hmem cause hcause
    have hgrown := (pushValues_spec name distinct hafter).2.2
    rw [Entries.find?_eq_some_of_mem distinct hmem] at hgrown
    simp only [hcause] at hgrown
    cases hgrown
  · intro htaken
    rcases hresult : b.pushValues row with ⟨result, after⟩
    cases result with
    | ok _ => exact ⟨after, rfl⟩
    | error failure =>
      obtain ⟨done, name, value, rest, cause, rfl, -, hcause, -⟩ :=
        (exists_pushRow_eq_error_iff distinct).mp ⟨after, pushRow_eq_error_iff.mpr hresult⟩
      exact absurd hcause (htaken name value (by simp) cause)

/-! ### Many rows -/

theorem pushRows_append_eq_ok_iff {more : List Row} :
    b.pushRows (rows ++ more) = .ok after ↔
      ∃ mid, b.pushRows rows = .ok mid ∧ mid.pushRows more = .ok after := by
  induction rows generalizing b with
  | nil => simp [pushRows]
  | cons row rest ih =>
    simp only [List.cons_append, pushRows_cons_eq_ok_iff, ih]
    constructor
    · rintro ⟨next, hnext, mid, hmid, hmore⟩
      exact ⟨mid, ⟨next, hnext, hmid⟩, hmore⟩
    · rintro ⟨mid, ⟨next, hnext, hmid⟩, hmore⟩
      exact ⟨next, hnext, mid, hmid, hmore⟩

theorem pushRows_eq_error_iff :
    b.pushRows rows = .error failure ↔
      ∃ done row rest mid, rows = done ++ row :: rest ∧ b.pushRows done = .ok mid ∧
        ∃ after, mid.pushRow row = (.error failure, after) := by
  induction rows generalizing b with
  | nil => simp [pushRows]
  | cons first rest ih =>
    rw [pushRows]
    rcases hfirst : b.pushRow first with ⟨result, next⟩
    cases result with
    | error cause =>
      constructor
      · intro h
        cases h
        exact ⟨[], first, rest, b, rfl, rfl, next, hfirst⟩
      · rintro ⟨done, row, more, mid, hrows, hdone, after, hrow⟩
        cases done with
        | nil =>
          cases hrows
          cases hdone
          rw [hfirst] at hrow
          cases hrow
          rfl
        | cons _ done =>
          cases hrows
          obtain ⟨other, hother, -⟩ := pushRows_cons_eq_ok_iff.mp hdone
          rw [hfirst] at hother
          cases hother
    | ok _ =>
      simp only [ih]
      constructor
      · rintro ⟨done, row, more, mid, rfl, hdone, hrow⟩
        exact ⟨first :: done, row, more, mid, rfl,
          pushRows_cons_eq_ok_iff.mpr ⟨next, hfirst, hdone⟩, hrow⟩
      · rintro ⟨done, row, more, mid, hrows, hdone, after, hrow⟩
        cases done with
        | nil =>
          cases hrows
          cases hdone
          rw [hfirst] at hrow
          cases hrow
        | cons _ done =>
          cases hrows
          obtain ⟨other, hother, hdone⟩ := pushRows_cons_eq_ok_iff.mp hdone
          rw [hfirst] at hother
          cases hother
          exact ⟨done, row, more, mid, rfl, hdone, after, hrow⟩

end FrameBuilder

namespace Frame
open GrowingColumn (Refuses)
open FrameBuilder (place)
variable {name field : String} {rows before : List Row} {row : Row} {formats : Entries TimeFormat}
  {cause failure : Failure} {b : FrameBuilder}

/-- The value of an attribute in a row is rejected, after those that it has in the rows before. -/
def Rejects (formats : Entries TimeFormat) (before : List Row) (row : Row) (field : String)
    (cause : Failure) : Prop :=
  ∃ value, row.find? field = some value ∧
    Refuses field (formats.find? field) (before.map (·.find? field)) value cause

/-- The value of an attribute in a row is the first that is rejected: none of the rows before has such
a value, nor has the row itself before the attribute. -/
structure FirstRejected (formats : Entries TimeFormat) (before : List Row) (row : Row)
    (field : String) (cause : Failure) : Prop where
  rejects : Rejects formats before row field cause
  earlierInRow : ∀ other ∈ row.names.takeWhile (· ≠ field), ∀ cause,
    ¬ Rejects formats before row other cause
  earlierRows : ∀ done next rest, before = done ++ next :: rest → ∀ other cause,
    ¬ Rejects formats done next other cause

theorem takeWhile_names {done rest : Row} {value : Value} (fresh : field ∉ done.names) :
    (Entries.names (done ++ (field, value) :: rest)).takeWhile (· ≠ field) = done.names := by
  rw [Entries.names_append, List.takeWhile_append_of_pos]
  · simp
  · intro other hmem
    simpa using fun heq : other = field => fresh (heq ▸ hmem)

/-- What follows an attribute in its row does not matter to it. -/
theorem rejects_append {done more : Row} (h : field ∈ done.names) :
    Rejects formats before (done ++ more) field cause ↔ Rejects formats before done field cause := by
  have hfind : Entries.find? (done ++ more) field = done.find? field := by
    rw [Entries.find?_append]
    cases hdone : done.find? field with
    | some value => rfl
    | none => exact absurd h (Entries.find?_eq_none_iff.mp hdone)
  simp only [Rejects, hfind]

section Builder
variable (distinct : ∀ row ∈ before, row.names.Nodup)
  (h : FrameBuilder.pushRows { name, formats } before = .ok b)
include distinct h

theorem grown_eq_error_iff {value : Value} :
    b.grown field value = .error cause ↔
      Refuses field (formats.find? field) (before.map (·.find? field)) value cause := by
  have hfollows := (FrameBuilder.follows_empty name formats field).pushRows distinct h
  rw [hfollows.grown_eq_error_iff, List.nil_append]

theorem exists_pushValues_iff (hrow : row.names.Nodup) :
    (∃ after, b.pushValues row = (.ok (), after)) ↔
      ∀ other ∈ row.names, ∀ cause, ¬ Rejects formats before row other cause := by
  rw [FrameBuilder.exists_pushValues_iff hrow]
  simp only [ne_eq, grown_eq_error_iff distinct h]
  constructor
  · rintro htaken other - cause ⟨value, hvalue, hrefused⟩
    exact htaken other value (Entries.mem_of_find? hvalue) cause hrefused
  · intro htaken other value hmem cause hrefused
    have hvalue := Entries.find?_eq_some_of_mem hrow hmem
    exact htaken other (Entries.mem_names_of_find? hvalue) cause ⟨value, hvalue, hrefused⟩

theorem exists_pushRow_eq_error_iff (hrow : row.names.Nodup) :
    (∃ after, b.pushRow row = (.error failure, after)) ↔
      ∃ field cause, Rejects formats before row field cause ∧
        (∀ other ∈ row.names.takeWhile (· ≠ field), ∀ cause,
          ¬ Rejects formats before row other cause) ∧
        cause.inContext (place field before.length) = failure := by
  have hcount : b.rows = before.length := by
    simpa using ((FrameBuilder.follows_empty name formats "").pushRows distinct h).count
  simp only [FrameBuilder.exists_pushRow_eq_error_iff hrow, hcount]
  constructor
  · rintro ⟨done, field, value, rest, cause, rfl, hdone, hcause, rfl⟩
    obtain ⟨hdistinct, fresh⟩ := FrameBuilder.nodup_of_split hrow
    rw [exists_pushValues_iff distinct h hdistinct] at hdone
    refine ⟨field, cause, ⟨value, ?_, (grown_eq_error_iff distinct h).mp hcause⟩, ?_, rfl⟩
    · exact Entries.find?_eq_some_of_mem hrow (by simp)
    · intro other hother
      rw [takeWhile_names fresh] at hother
      simpa only [rejects_append hother] using hdone other hother
  · rintro ⟨field, cause, ⟨value, hvalue, hrefused⟩, hearlier, rfl⟩
    obtain ⟨done, rest, rfl⟩ := List.append_of_mem (Entries.mem_of_find? hvalue)
    obtain ⟨hdistinct, fresh⟩ := FrameBuilder.nodup_of_split hrow
    refine ⟨done, field, value, rest, cause, rfl, ?_, (grown_eq_error_iff distinct h).mpr hrefused, rfl⟩
    rw [exists_pushValues_iff distinct h hdistinct]
    intro other hother
    rw [takeWhile_names fresh] at hearlier
    simpa only [rejects_append hother] using hearlier other hother

end Builder

theorem exists_pushRows_iff (distinct : ∀ row ∈ rows, row.names.Nodup) :
    (∃ b, FrameBuilder.pushRows { name, formats } rows = .ok b) ↔
      ∀ done next rest, rows = done ++ next :: rest → ∀ other cause,
        ¬ Rejects formats done next other cause := by
  constructor
  · rintro ⟨b, hb⟩ done next rest rfl other cause hrejects
    obtain ⟨mid, hmid, hrest⟩ := FrameBuilder.pushRows_append_eq_ok_iff.mp hb
    obtain ⟨after, hafter, -⟩ := FrameBuilder.pushRows_cons_eq_ok_iff.mp hrest
    obtain ⟨filled, hfilled, -⟩ := FrameBuilder.pushRow_eq_ok_iff.mp hafter
    have hdone : ∀ row ∈ done, row.names.Nodup := fun row hmem => distinct row (by simp [hmem])
    have htaken := (exists_pushValues_iff hdone hmid (distinct next (by simp))).mp ⟨filled, hfilled⟩
    obtain ⟨value, hvalue, -⟩ := id hrejects
    exact htaken other (Entries.mem_names_of_find? hvalue) cause hrejects
  · intro hnone
    cases hresult : FrameBuilder.pushRows { name, formats } rows with
    | ok b => exact ⟨b, rfl⟩
    | error failure =>
      obtain ⟨done, next, rest, mid, rfl, hmid, hnext⟩ := FrameBuilder.pushRows_eq_error_iff.mp hresult
      have hdone : ∀ row ∈ done, row.names.Nodup := fun row hmem => distinct row (by simp [hmem])
      obtain ⟨field, cause, hrejects, -, -⟩ :=
        (exists_pushRow_eq_error_iff hdone hmid (distinct next (by simp))).mp hnext
      exact absurd hrejects (hnone done next rest rfl field cause)

/-- A value is rejected because it cannot be read, and the place is put before the reason. -/
theorem FirstRejected.inContext_eq (h : FirstRejected formats before row field cause) :
    ∃ message, cause = .decode message ∧ cause.inContext (place field before.length) =
      .decode ("attribute " ++ field ++ " at row " ++ String.ofList (Number.natText before.length) ++
        ": " ++ message) := by
  obtain ⟨value, -, hrefused⟩ := h.rejects
  obtain ⟨message, rfl⟩ := Cell.isDecode_of_ofValue hrefused.ofValue_eq
  exact ⟨message, rfl, rfl⟩

theorem FirstRejected.pushRows {more : List Row} (h : FirstRejected formats before row field cause)
    (distinct : ∀ row ∈ before, row.names.Nodup) (hrow : row.names.Nodup) :
    (∃ b, FrameBuilder.pushRows { name, formats } before = .ok b) ∧
      FrameBuilder.pushRows { name, formats } (before ++ row :: more) =
        .error (cause.inContext (place field before.length)) := by
  obtain ⟨b, hb⟩ : ∃ b, FrameBuilder.pushRows { name, formats } before = .ok b :=
    (exists_pushRows_iff distinct).mpr h.earlierRows
  refine ⟨⟨b, hb⟩, FrameBuilder.pushRows_eq_error_iff.mpr ⟨before, row, more, b, rfl, hb, ?_⟩⟩
  rw [exists_pushRow_eq_error_iff distinct hb hrow]
  exact ⟨field, cause, h.rejects, h.earlierInRow, rfl⟩

theorem ofRows_eq_error_iff (distinct : ∀ row ∈ rows, row.names.Nodup) :
    Frame.ofRows name rows formats = .error failure ↔
      ∃ before row after field cause, rows = before ++ row :: after ∧
        FirstRejected formats before row field cause ∧
        failure = cause.inContext (place field before.length) := by
  rw [Frame.ofRows, Failure.map_eq_error_iff]
  constructor
  · intro h
    obtain ⟨before, row, after, mid, rfl, hmid, hrow⟩ := FrameBuilder.pushRows_eq_error_iff.mp h
    have hbefore : ∀ row ∈ before, row.names.Nodup := fun row hmem => distinct row (by simp [hmem])
    obtain ⟨field, cause, hrejects, hearlier, rfl⟩ :=
      (exists_pushRow_eq_error_iff hbefore hmid (distinct row (by simp))).mp hrow
    have hrows := (exists_pushRows_iff hbefore).mp ⟨mid, hmid⟩
    exact ⟨before, row, after, field, cause, rfl, ⟨hrejects, hearlier, hrows⟩, rfl⟩
  · rintro ⟨before, row, after, field, cause, rfl, hfirst, rfl⟩
    exact (hfirst.pushRows (fun row hmem => distinct row (by simp [hmem])) (distinct row (by simp))).2

/-- Rows make no frame exactly if a value in them is rejected. The failure then names the first such
value, by its attribute and the number of its row, and goes on with the reason why the value cannot be
read. The rows before that one make a frame. With that row they fail in the same way, whatever
follows. -/
theorem ofRows_names_first_rejected (distinct : ∀ row ∈ rows, row.names.Nodup) :
    (∀ failure, Frame.ofRows name rows formats = .error failure ↔
      ∃ before row after field message, rows = before ++ row :: after ∧
        FirstRejected formats before row field (.decode message) ∧
        failure = .decode ("attribute " ++ field ++ " at row " ++
          String.ofList (Number.natText before.length) ++ ": " ++ message)) ∧
    ∀ before row after field cause, rows = before ++ row :: after →
      FirstRejected formats before row field cause →
      (∃ frame, Frame.ofRows name before formats = .ok frame) ∧
        ∃ failure, Frame.ofRows name rows formats = .error failure ∧
          ∀ others, Frame.ofRows name (before ++ row :: others) formats = .error failure := by
  constructor
  · intro failure
    rw [ofRows_eq_error_iff distinct]
    constructor
    · rintro ⟨before, row, after, field, cause, hrows, hfirst, rfl⟩
      obtain ⟨message, rfl, htext⟩ := hfirst.inContext_eq
      exact ⟨before, row, after, field, message, hrows, hfirst, htext⟩
    · rintro ⟨before, row, after, field, message, hrows, hfirst, rfl⟩
      exact ⟨before, row, after, field, _, hrows, hfirst, rfl⟩
  · rintro before row after field cause rfl hfirst
    have hbefore : ∀ row ∈ before, row.names.Nodup := fun row hmem => distinct row (by simp [hmem])
    have hfails (others : List Row) : (∃ b, FrameBuilder.pushRows { name, formats } before = .ok b) ∧
        FrameBuilder.pushRows { name, formats } (before ++ row :: others) =
          .error (cause.inContext (place field before.length)) :=
      hfirst.pushRows hbefore (distinct row (by simp))
    obtain ⟨b, hb⟩ := (hfails after).1
    refine ⟨⟨b.frame, Failure.map_eq_ok_iff.mpr ⟨b, hb, rfl⟩⟩, _,
      Failure.map_eq_error_iff.mpr (hfails after).2, ?_⟩
    exact fun others => Failure.map_eq_error_iff.mpr (hfails others).2

/-- A text that is no number, in a column that an earlier row began and before another such text. -/
theorem ofRows_names_first_rejected_of_later_value :
    let rows : List Row :=
      [[("a", .number "1")], [("b", .bool true), ("a", .number "x"), ("c", .number "?")]]
    (∀ row ∈ rows, row.names.Nodup) ∧
      ∃ before row after field message, rows = before ++ row :: after ∧
        FirstRejected [] before row field (.decode message) ∧
        "attribute a at row 1: parsing number \"x\": invalid syntax" =
          "attribute " ++ field ++ " at row " ++ String.ofList (Number.natText before.length) ++
            ": " ++ message := by
  intro rows
  have hdistinct : ∀ row ∈ rows, row.names.Nodup := by decide
  have hfails : Frame.ofRows "A" rows [] =
      .error (.decode "attribute a at row 1: parsing number \"x\": invalid syntax") := rfl
  obtain ⟨before, row, after, field, message, hrows, hfirst, htext⟩ :=
    ((ofRows_names_first_rejected hdistinct).1 _).mp hfails
  exact ⟨hdistinct, before, row, after, field, message, hrows, hfirst, Failure.decode.inj htext⟩

end Frame

end ItemStore
