import ItemStore.Proofs.Upload.SavedPresets
import ItemStore.Upload.Service

/-! # The presets of a catalog

A catalog lists the saved presets and, behind them, the first configured preset of each id that is
not saved. These are the ids that are resolved, and what is listed of an id is what it is resolved
to, apart from a cap that a configured preset takes from its installation.
-/
namespace ItemStore.Upload

namespace Preset

/-- A preset without a cap has the same effective cap with that of the installation, whether the
installation sets one or not. -/
theorem effectiveMaxKB_of_unset {p : Preset} (h : p.maxPayloadKB ≤ 0) (installationMaxKB : Int) :
    ({ p with maxPayloadKB := installationMaxKB } : Preset).effectiveMaxKB installationMaxKB =
      p.effectiveMaxKB installationMaxKB := by
  simp only [effectiveMaxKB]
  grind

end Preset

namespace Catalog

def listAlso (listed : List PresetSummary) (p : Preset) : List PresetSummary :=
  if listed.any (·.id = p.id) then listed else listed ++ [p.summary]

section Listing
variable {listed : List PresetSummary} {p : Preset} {s : PresetSummary} {id : String}

theorem any_id_iff : listed.any (·.id = id) = true ↔ id ∈ listed.map PresetSummary.id := by
  simp

theorem listAlso_of_mem (h : p.id ∈ listed.map PresetSummary.id) : listAlso listed p = listed := by
  rw [listAlso, if_pos (any_id_iff.mpr h)]

theorem listAlso_of_not_mem (h : p.id ∉ listed.map PresetSummary.id) :
    listAlso listed p = listed ++ [p.summary] := by
  rw [listAlso, if_neg (mt any_id_iff.mp h)]

theorem nodup_listAlso (h : (listed.map PresetSummary.id).Nodup) (p : Preset) :
    ((listAlso listed p).map PresetSummary.id).Nodup := by
  by_cases hmem : p.id ∈ listed.map PresetSummary.id
  · rwa [listAlso_of_mem hmem]
  · rw [listAlso_of_not_mem hmem, List.map_append]
    exact h.append (List.nodup_singleton _) (List.disjoint_singleton.mpr hmem)

theorem nodup_foldl_listAlso (configured : List Preset)
    (h : (listed.map PresetSummary.id).Nodup) :
    ((configured.foldl listAlso listed).map PresetSummary.id).Nodup := by
  induction configured generalizing listed with
  | nil => exact h
  | cons p rest ih => exact ih (nodup_listAlso h p)

/-- Under an id stays listed what is, else the first configured preset of the id is listed. -/
theorem find?_foldl_listAlso (configured : List Preset) (listed : List PresetSummary)
    (id : String) :
    (configured.foldl listAlso listed).find? (·.id = id) =
      (listed.find? (·.id = id)).or ((configured.find? (·.id = id)).map Preset.summary) := by
  induction configured generalizing listed with
  | nil => simp
  | cons p rest ih =>
    rw [List.foldl_cons, ih]
    by_cases hmem : p.id ∈ listed.map PresetSummary.id
    · rw [listAlso_of_mem hmem]
      by_cases hid : p.id = id
      · -- the preset is in the shadow of one that is listed
        obtain ⟨s, hs, hsid⟩ := List.mem_map.mp hmem
        have hsome : (listed.find? (·.id = id)).isSome := by
          rw [List.find?_isSome]
          exact ⟨s, hs, by simpa [hsid] using hid⟩
        rw [Option.or_of_isSome hsome, Option.or_of_isSome hsome]
      · simp [hid]
    · rw [listAlso_of_not_mem hmem, List.find?_append]
      by_cases hid : p.id = id <;> simp [hid, Preset.summary]

theorem mem_ids_iff : id ∈ listed.map PresetSummary.id ↔ (listed.find? (·.id = id)).isSome := by
  simp

end Listing

/-- The preset that stands under an id: the saved one, else the first configured one. -/
def preset? (catalog : Catalog) (id : String) : Option Preset :=
  (catalog.shelf.load id).or (catalog.settings.presets.find? (·.id = id))

/-- The cap that a preset is resolved with. Only a configured preset that sets none takes that of
the installation. -/
def resolvedCap (catalog : Catalog) (id : String) (own : Int) : Int :=
  if catalog.shelf.load id = none ∧ own ≤ 0 then catalog.settings.maxPayloadKB else own

theorem resolve_of_preset? {catalog : Catalog} {id : String} {p : Preset}
    (h : catalog.preset? id = some p) :
    catalog.resolve id = .ok { p with maxPayloadKB := catalog.resolvedCap id p.maxPayloadKB } := by
  rw [resolve, resolvedCap]
  cases hload : catalog.shelf.load id with
  | some saved =>
    rw [preset?, hload] at h
    cases h
    simp
  | none =>
    rw [preset?, hload, Option.none_or] at h
    by_cases hcap : p.maxPayloadKB ≤ 0 <;> simp [Settings.find, h, hcap]

theorem resolve_of_preset?_eq_none {catalog : Catalog} {id : String}
    (h : catalog.preset? id = none) : catalog.resolve id = .error (Settings.missing id) := by
  obtain ⟨hload, hfind⟩ := Option.or_eq_none_iff.mp h
  rw [resolve, hload]
  dsimp only
  rw [Settings.find, hfind]

theorem effectiveMaxKB_resolvedCap (catalog : Catalog) (id : String) (p : Preset) :
    ({ p with maxPayloadKB := catalog.resolvedCap id p.maxPayloadKB } : Preset).effectiveMaxKB
        catalog.settings.maxPayloadKB =
      p.effectiveMaxKB catalog.settings.maxPayloadKB := by
  by_cases hunset : catalog.shelf.load id = none ∧ p.maxPayloadKB ≤ 0
  · rw [resolvedCap, if_pos hunset]
    exact Preset.effectiveMaxKB_of_unset hunset.2 _
  · rw [resolvedCap, if_neg hunset]

theorem summary_resolvedCap (catalog : Catalog) (id : String) (p : Preset) :
    ({ p with maxPayloadKB := catalog.resolvedCap id p.maxPayloadKB } : Preset).summary =
      if catalog.shelf.load id = none ∧ p.summary.maxPayloadKB ≤ 0 then
        { p.summary with maxPayloadKB := catalog.settings.maxPayloadKB }
      else p.summary :=
  apply_ite (fun cap => Preset.summary { p with maxPayloadKB := cap }) _ _ _

section Reached
variable {catalog : Catalog} {history : List Shelf.Edit}

theorem find?_presets (follows : catalog.shelf.Follows history) (id : String) :
    catalog.presets.find? (·.id = id) = (catalog.preset? id).map Preset.summary := by
  have hlist := Shelf.find?_list (fun _ hmem => follows.own hmem) id
  change (catalog.settings.presets.foldl listAlso catalog.shelf.list).find? (·.id = id) = _
  rw [find?_foldl_listAlso, hlist, preset?, Option.map_or]

theorem nodup_presets (follows : catalog.shelf.Follows history) :
    (catalog.presets.map PresetSummary.id).Nodup := by
  have hsaved : (Shelf.listedIds catalog.shelf).Nodup := by
    rw [Shelf.listedIds_eq fun _ hmem => follows.own hmem]
    exact follows.nodup
  exact nodup_foldl_listAlso catalog.settings.presets hsaved

end Reached

/-- What is listed is what is resolved. The listed ids are distinct and those that a lookup finds,
and the preset that is found is the listed one, except that a configured preset without a cap of its
own is found with that of the installation, which does not change its effective cap. -/
theorem presets_agree_with_resolve (history : List Shelf.Edit) (settings : Settings) :
    let catalog : Catalog := ⟨Shelf.after history, settings⟩
    (catalog.presets.map PresetSummary.id).Nodup ∧
    (∀ id, id ∈ catalog.presets.map PresetSummary.id ↔ ∃ p, catalog.resolve id = .ok p) ∧
    ∀ s ∈ catalog.presets, ∃ shown found : Preset,
      shown.summary = s ∧ catalog.resolve s.id = .ok found ∧
      found.summary =
        (if catalog.shelf.load s.id = none ∧ s.maxPayloadKB ≤ 0 then
          { s with maxPayloadKB := settings.maxPayloadKB }
        else s) ∧
      shown.effectiveMaxKB settings.maxPayloadKB = found.effectiveMaxKB settings.maxPayloadKB := by
  intro catalog
  have hfollows : catalog.shelf.Follows history := Shelf.follows_after history
  have hdistinct := nodup_presets hfollows
  refine ⟨hdistinct, fun id => ?_, fun s hs => ?_⟩
  · rw [mem_ids_iff, find?_presets hfollows, Option.isSome_map]
    cases hpreset : catalog.preset? id with
    | none => simp [resolve_of_preset?_eq_none hpreset]
    | some p => simp [resolve_of_preset? hpreset]
  · have hfind := find?_key_of_mem hdistinct hs
    rw [find?_presets hfollows] at hfind
    obtain ⟨shown, hshown, hsummary⟩ := Option.map_eq_some_iff.mp hfind
    refine ⟨shown, _, hsummary, resolve_of_preset? hshown, ?_,
      (catalog.effectiveMaxKB_resolvedCap s.id shown).symm⟩
    rw [summary_resolvedCap, hsummary]

/-- A saved preset in front of a configured one of its id, and two configured ones of another id, of
which the first sets no cap. -/
theorem presets_agree_with_resolve_of_shared :
    let saved := Preset.new "a" "Saved" .insert
    let configured := Preset.new "b" "Configured" .select
    let catalog : Catalog :=
      { shelf := Shelf.after [.save saved, .save (Preset.new "c" "" .select)]
        settings := {
          presets := [Preset.new "a" "Hidden" .delete, configured, Preset.new "b" "Hidden" .delete]
          maxPayloadKB := 64 } }
    catalog.presets = [saved.summary, configured.summary] ∧
      catalog.resolve "a" = .ok saved ∧
      ∃ found, catalog.resolve "b" = .ok found ∧
        found.summary = { configured.summary with maxPayloadKB := 64 } ∧
        (∀ p, catalog.resolve "c" ≠ .ok p) := by
  intro saved configured catalog
  have hpresets : catalog.presets = [saved.summary, configured.summary] := by decide +kernel
  obtain ⟨-, hids, hfound⟩ :=
    presets_agree_with_resolve [.save saved, .save (Preset.new "c" "" .select)] catalog.settings
  have hlisted : configured.summary ∈ catalog.presets := by simp [hpresets]
  obtain ⟨_, found, -, hresolve, hsummary, -⟩ := hfound configured.summary hlisted
  refine ⟨hpresets, rfl, found, hresolve, hsummary.trans (if_pos ⟨rfl, by decide⟩), fun p hp => ?_⟩
  have hmem : "c" ∈ catalog.presets.map PresetSummary.id := (hids "c").mpr ⟨p, hp⟩
  rw [hpresets] at hmem
  exact absurd hmem (by decide)

end Catalog

end ItemStore.Upload
