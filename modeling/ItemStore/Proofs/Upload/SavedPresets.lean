import ItemStore.Proofs.Entries
import ItemStore.Upload.Shelf
import Mathlib.Data.List.DropRight

/-! # What a run of changes leaves on a shelf

What a shelf holds is told by the changes that it went through: under each id the preset that was
last saved there since the id was last deleted, and the ids in the order in which they were first
saved since then. A change that is refused does not count.
-/
namespace ItemStore.Upload.Shelf

variable {shelf : Shelf} {history : List Edit} {id : String} {p : Preset}

/-! ### One change -/

theorem edit_save (shelf : Shelf) (fit : p.validateForSave = .ok ()) :
    shelf.edit (.save p) = (.ok (), shelf.put p.id p) := by
  simp only [edit, save, fit]
  rfl

theorem edit_save_of_refused (shelf : Shelf) {failure : Failure}
    (unfit : p.validateForSave = .error failure) :
    shelf.edit (.save p) = (.error failure, shelf) := by
  simp only [edit, save, unfit]
  rfl

theorem edit_delete (known : shelf.load id ≠ none) :
    shelf.edit (.delete id) = (.ok (), shelf.remove id) := by
  have hhas : shelf.has id = true := Option.isSome_iff_ne_none.mpr known
  simp only [edit, delete, hhas, if_true]
  rfl

theorem edit_delete_of_unknown (unknown : shelf.load id = none) :
    shelf.edit (.delete id) =
      (.error (.notFound ("preset " ++ Text.quoted id ++ " not found")), shelf) := by
  have hhas : shelf.has id = false := by
    rw [Entries.has, Option.isSome_eq_false_iff, Option.isNone_iff_eq_none]
    exact unknown
  simp only [edit, delete, hhas]
  rfl

theorem snd_edit_delete (shelf : Shelf) (id : String) :
    (shelf.edit (.delete id)).2 = shelf.remove id := by
  by_cases hload : shelf.load id = none
  · have hmem : id ∉ shelf.names := Entries.find?_eq_none_iff.mp hload
    rw [edit_delete_of_unknown hload, Entries.remove_of_not_mem hmem]
  · rw [edit_delete hload]

theorem after_concat (history : List Edit) (change : Edit) :
    after (history ++ [change]) = ((after history).edit change).2 := by
  rw [after, List.foldl_append]
  rfl

/-! ### What a history says -/

def Edit.saved? (change : Edit) (id : String) : Option Preset :=
  match change with
  | .save p => if p.id = id ∧ p.validateForSave = .ok () then some p else none
  | .delete _ => none

/-- What was saved under an id since its last deletion, with the number of each change. -/
def savedSince (history : List Edit) (id : String) : List (Preset × Nat) :=
  (history.zipIdx.rtakeWhile fun call => call.1 ≠ .delete id).filterMap fun call =>
    (call.1.saved? id).map fun p => (p, call.2)

def lastSaved (history : List Edit) (id : String) : Option Preset :=
  (savedSince history id).getLast?.map Prod.fst

/-- The number of the change that first saved an id since its last deletion. -/
def firstSaved (history : List Edit) (id : String) : Option Nat :=
  (savedSince history id).head?.map Prod.snd

/-- Both ids are saved, and the first one was so earlier, each counted from its last deletion. -/
def SavedBefore (history : List Edit) (earlier later : String) : Prop :=
  ∃ m n, firstSaved history earlier = some m ∧ firstSaved history later = some n ∧ m < n

theorem savedSince_save (history : List Edit) (id : String) (fit : p.validateForSave = .ok ()) :
    savedSince (history ++ [.save p]) id =
      savedSince history id ++ if p.id = id then [(p, history.length)] else [] := by
  rw [savedSince, List.zipIdx_append, List.zipIdx_singleton, List.rtakeWhile_concat]
  by_cases hid : p.id = id <;> simp [savedSince, Edit.saved?, hid, fit]

theorem savedSince_refused (history : List Edit) (id : String)
    (unfit : p.validateForSave ≠ .ok ()) :
    savedSince (history ++ [.save p]) id = savedSince history id := by
  rw [savedSince, List.zipIdx_append, List.zipIdx_singleton, List.rtakeWhile_concat]
  simp [savedSince, Edit.saved?, unfit]

theorem savedSince_delete (history : List Edit) (deleted id : String) :
    savedSince (history ++ [.delete deleted]) id =
      if deleted = id then [] else savedSince history id := by
  rw [savedSince, List.zipIdx_append, List.zipIdx_singleton, List.rtakeWhile_concat]
  by_cases hid : deleted = id <;> simp [savedSince, Edit.saved?, hid]

/-- What was saved is fit to be saved, has the id and was saved by an earlier change. -/
theorem of_mem_savedSince {k : Nat} (h : (p, k) ∈ savedSince history id) :
    p.id = id ∧ p.validateForSave = .ok () ∧ k < history.length := by
  obtain ⟨⟨change, j⟩, hcall, hsaved⟩ := List.mem_filterMap.mp h
  have hmem := (List.rtakeWhile_suffix _ _).subset hcall
  obtain ⟨q, hq, hpair⟩ := Option.map_eq_some_iff.mp hsaved
  cases hpair
  cases change with
  | delete deleted => cases hq
  | save q =>
    obtain ⟨⟨hid, hfit⟩, hp⟩ := Option.ite_none_right_eq_some.mp hq
    cases hp
    exact ⟨hid, hfit, by simpa using (List.mem_zipIdx hmem).2.1⟩

theorem firstSaved_eq_none_iff : firstSaved history id = none ↔ lastSaved history id = none := by
  simp [firstSaved, lastSaved]

theorem fit_of_lastSaved (h : lastSaved history id = some p) :
    p.id = id ∧ p.validateForSave = .ok () := by
  obtain ⟨⟨q, k⟩, hlast, rfl⟩ := Option.map_eq_some_iff.mp h
  obtain ⟨hid, hfit, -⟩ := of_mem_savedSince (List.mem_of_getLast? hlast)
  exact ⟨hid, hfit⟩

theorem lt_of_firstSaved {k : Nat} (h : firstSaved history id = some k) : k < history.length := by
  obtain ⟨⟨q, j⟩, hfirst, rfl⟩ := Option.map_eq_some_iff.mp h
  exact (of_mem_savedSince (List.mem_of_head? hfirst)).2.2

theorem lastSaved_save (history : List Edit) (id : String) (fit : p.validateForSave = .ok ()) :
    lastSaved (history ++ [.save p]) id = if p.id = id then some p else lastSaved history id := by
  rw [lastSaved, savedSince_save history id fit]
  by_cases hid : p.id = id <;> simp [lastSaved, hid]

/-- Only the first one of the changes that save an id counts for its place. -/
theorem firstSaved_save (history : List Edit) (id : String) (fit : p.validateForSave = .ok ()) :
    firstSaved (history ++ [.save p]) id =
      (firstSaved history id).or (if p.id = id then some history.length else none) := by
  rw [firstSaved, firstSaved, savedSince_save history id fit]
  cases savedSince history id with
  | nil => by_cases hid : p.id = id <;> simp [hid]
  | cons first later => rfl

/-! ### What a shelf holds after a history -/

/-- A shelf stands as a history says. -/
structure Follows (shelf : Shelf) (history : List Edit) : Prop where
  load : ∀ id, shelf.load id = lastSaved history id
  ordered : shelf.names.Pairwise (SavedBefore history)

namespace Follows

theorem mem_names_iff (h : shelf.Follows history) :
    id ∈ shelf.names ↔ firstSaved history id ≠ none := by
  rw [← not_iff_not, ← Entries.find?_eq_none_iff, not_not, firstSaved_eq_none_iff, ← h.load]
  rfl

theorem nodup (h : shelf.Follows history) : shelf.names.Nodup := by
  refine h.ordered.imp ?_
  rintro a _ ⟨m, n, hm, hn, hlt⟩ rfl
  rw [hm] at hn
  cases hn
  exact Nat.lt_irrefl m hlt

theorem lastSaved_of_mem (h : shelf.Follows history) (hmem : (id, p) ∈ shelf) :
    lastSaved history id = some p := by
  rw [← h.load]
  exact Entries.find?_eq_some_of_mem h.nodup hmem

theorem own (h : shelf.Follows history) {entry : String × Preset} (hmem : entry ∈ shelf) :
    entry.2.id = entry.1 :=
  (fit_of_lastSaved (h.lastSaved_of_mem hmem)).1

/-- A preset that replaces another keeps the place of its id, and a new one comes last. -/
theorem save (h : shelf.Follows history) (fit : p.validateForSave = .ok ()) :
    Follows (shelf.put p.id p) (history ++ [.save p]) where
  load id := by
    rw [Shelf.load, Entries.find?_put, lastSaved_save history id fit, ← h.load]
    rfl
  ordered := by
    have hbefore {a b : String} (hab : SavedBefore history a b) :
        SavedBefore (history ++ [.save p]) a b := by
      obtain ⟨m, n, hm, hn, hlt⟩ := hab
      exact ⟨m, n, by simp [firstSaved_save history a fit, hm],
        by simp [firstSaved_save history b fit, hn], hlt⟩
    by_cases hmem : p.id ∈ shelf.names
    · rw [Entries.names_put_of_mem p hmem]
      exact h.ordered.imp hbefore
    · rw [Entries.names_put_of_not_mem p hmem, Entries.names_append, List.pairwise_append]
      refine ⟨h.ordered.imp hbefore, List.pairwise_singleton _ _, ?_⟩
      intro a ha b hb
      obtain rfl := List.mem_singleton.mp hb
      obtain ⟨m, hm⟩ := Option.ne_none_iff_exists'.mp (h.mem_names_iff.mp ha)
      have hnew : firstSaved history p.id = none := not_not.mp (mt h.mem_names_iff.mpr hmem)
      refine ⟨m, history.length, ?_, ?_, lt_of_firstSaved hm⟩
      · simp [firstSaved_save history a fit, hm]
      · simp [firstSaved_save history p.id fit, hnew]

theorem refuse (h : shelf.Follows history) (unfit : p.validateForSave ≠ .ok ()) :
    shelf.Follows (history ++ [.save p]) where
  load id := by rw [h.load, lastSaved, lastSaved, savedSince_refused history id unfit]
  ordered := by
    refine h.ordered.imp ?_
    rintro a b ⟨m, n, hm, hn, hlt⟩
    refine ⟨m, n, ?_, ?_, hlt⟩
    · rw [firstSaved, savedSince_refused history a unfit, ← hm, firstSaved]
    · rw [firstSaved, savedSince_refused history b unfit, ← hn, firstSaved]

/-- The order of the ids that stay is not touched. -/
theorem delete (h : shelf.Follows history) (deleted : String) :
    Follows (shelf.remove deleted) (history ++ [.delete deleted]) where
  load id := by
    rw [Shelf.load, Entries.find?_remove, lastSaved, savedSince_delete]
    by_cases hid : deleted = id
    · simp [hid]
    · rw [if_neg hid, if_neg hid]
      exact h.load id
  ordered := by
    rw [Entries.names_remove]
    refine (h.ordered.filter _).imp_of_mem ?_
    rintro a b ha hb ⟨m, n, hm, hn, hlt⟩
    have hkept {id : String} (hid : id ∈ shelf.names.filter (· ≠ deleted)) :
        firstSaved (history ++ [.delete deleted]) id = firstSaved history id := by
      have hne : id ≠ deleted := by simpa using (List.mem_filter.mp hid).2
      rw [firstSaved, savedSince_delete, if_neg hne.symm, firstSaved]
    exact ⟨m, n, (hkept ha).trans hm, (hkept hb).trans hn, hlt⟩

end Follows

/-- What one change keeps. -/
theorem Follows.edit (h : shelf.Follows history) (change : Edit) :
    (shelf.edit change).2.Follows (history ++ [change]) := by
  cases change with
  | delete id =>
    rw [snd_edit_delete]
    exact h.delete id
  | save p =>
    cases hvalid : p.validateForSave with
    | ok _ =>
      rw [edit_save shelf hvalid]
      exact h.save hvalid
    | error failure =>
      rw [edit_save_of_refused shelf hvalid]
      exact h.refuse (by simp [hvalid])

theorem follows_after (history : List Edit) : (after history).Follows history := by
  induction history using List.reverseRecOn with
  | nil => exact ⟨fun _ => rfl, List.Pairwise.nil⟩
  | append_singleton history change ih =>
    rw [after_concat]
    exact ih.edit change

/-! ### What is listed -/

def listedIds (shelf : Shelf) : List String := shelf.list.map PresetSummary.id

theorem listedIds_eq (own : ∀ entry ∈ shelf, entry.2.id = entry.1) :
    shelf.listedIds = shelf.names := by
  rw [listedIds, list, List.map_map]
  exact List.map_congr_left own

theorem find?_list (own : ∀ entry ∈ shelf, entry.2.id = entry.1) (id : String) :
    shelf.list.find? (·.id = id) = (shelf.load id).map Preset.summary := by
  induction shelf with
  | nil => rfl
  | cons entry rest ih =>
    obtain ⟨hfirst, hrest⟩ := List.forall_mem_cons.mp own
    obtain ⟨name, p⟩ := entry
    have hid : p.summary.id = name := hfirst
    by_cases hname : name = id
    · simp [list, load, hid, hname]
    · simpa [list, load, hid, hname] using ih hrest

theorem listedIds_after (history : List Edit) : (after history).listedIds = (after history).names :=
  listedIds_eq fun _ hmem => (follows_after history).own hmem

/-- After any run of changes a shelf holds under each id, and lists at its place, the preset that
was last saved there since the id was last deleted. Saving keeps the place of an id that is there
and puts a new one last, deleting takes an id out, and what is refused changes nothing. -/
theorem after_holds_lastSaved (history : List Edit) :
    let shelf := after history
    (∀ id p, (id, p) ∈ shelf →
      p.id = id ∧ p.validateForSave = .ok () ∧ lastSaved history id = some p) ∧
    (∀ id, shelf.load id = lastSaved history id) ∧
    (∀ id, shelf.list.find? (·.id = id) = (shelf.load id).map Preset.summary) ∧
    shelf.listedIds.Nodup ∧ shelf.listedIds.Pairwise (SavedBefore history) ∧
    (∀ p, p.validateForSave = .ok () →
      (shelf.edit (.save p)).1 = .ok () ∧
        (shelf.edit (.save p)).2.listedIds =
          if p.id ∈ shelf.listedIds then shelf.listedIds else shelf.listedIds ++ [p.id]) ∧
    (∀ p failure, p.validateForSave = .error failure →
      shelf.edit (.save p) = (.error failure, shelf)) ∧
    (∀ id, id ∈ shelf.listedIds →
      (shelf.edit (.delete id)).1 = .ok () ∧
        (shelf.edit (.delete id)).2.listedIds = shelf.listedIds.filter (· ≠ id)) ∧
    ∀ id, id ∉ shelf.listedIds →
      shelf.edit (.delete id) =
        (.error (.notFound ("preset " ++ Text.quoted id ++ " not found")), shelf) := by
  intro shelf
  have hfollows : shelf.Follows history := follows_after history
  have hids : shelf.listedIds = shelf.names := listedIds_after history
  have hedit (change : Edit) :
      (shelf.edit change).2.listedIds = (shelf.edit change).2.names :=
    listedIds_eq fun _ hmem => (hfollows.edit change).own hmem
  refine ⟨?_, hfollows.load, find?_list fun _ hmem => hfollows.own hmem, ?_, ?_, ?_, ?_, ?_, ?_⟩
  · intro id p hmem
    have hlast := hfollows.lastSaved_of_mem hmem
    exact ⟨(fit_of_lastSaved hlast).1, (fit_of_lastSaved hlast).2, hlast⟩
  · exact hids ▸ hfollows.nodup
  · exact hids ▸ hfollows.ordered
  · intro p fit
    rw [hedit, hids, edit_save shelf fit]
    refine ⟨rfl, ?_⟩
    by_cases hmem : p.id ∈ shelf.names
    · rw [if_pos hmem, Entries.names_put_of_mem p hmem]
    · rw [if_neg hmem, Entries.names_put_of_not_mem p hmem, Entries.names_append]
      rfl
  · exact fun p failure => edit_save_of_refused shelf
  · intro id hmem
    rw [hids] at hmem
    have hknown : shelf.load id ≠ none := mt Entries.find?_eq_none_iff.mp (not_not.mpr hmem)
    rw [hedit, hids, edit_delete hknown]
    exact ⟨rfl, Entries.names_remove shelf id⟩
  · intro id hmem
    rw [hids] at hmem
    exact edit_delete_of_unknown (Entries.find?_eq_none_iff.mpr hmem)

/-- A preset that is replaced keeps its place, one that is deleted and saved again comes last. -/
theorem after_holds_lastSaved_of_replaced :
    let first := Preset.new "a" "T" .insert
    let replaced := Preset.new "a" "T" .delete
    let other := Preset.new "b" "T" .select
    let again := Preset.new "c" "T" .update
    let shelf := after [.save again, .save first, .save other, .delete "c", .save replaced,
      .save (Preset.new "" "T" .insert), .save again]
    shelf.listedIds = ["a", "b", "c"] ∧ ("a", replaced) ∈ shelf ∧
      (replaced.id = "a" ∧ replaced.validateForSave = .ok ()) ∧
      shelf.load "a" = some replaced ∧
      (shelf.edit (.delete "b")).2.listedIds = ["a", "c"] ∧
      shelf.edit (.delete "d") = (.error (.notFound "preset \"d\" not found"), shelf) := by
  intro first replaced other again shelf
  obtain ⟨hown, hload, -, -, -, -, -, hdelete, hunknown⟩ :=
    after_holds_lastSaved [.save again, .save first, .save other, .delete "c", .save replaced,
      .save (Preset.new "" "T" .insert), .save again]
  have hids : shelf.listedIds = ["a", "b", "c"] := by decide +kernel
  have hmem : ("a", replaced) ∈ shelf := by decide +kernel
  obtain ⟨hid, hfit, hlast⟩ := hown "a" replaced hmem
  have hkept := (hdelete "b" (by decide +kernel)).2
  refine ⟨hids, hmem, ⟨hid, hfit⟩, (hload "a").trans hlast, ?_, hunknown "d" (by decide +kernel)⟩
  rw [hkept]
  decide +kernel

end ItemStore.Upload.Shelf
