import ItemStore.Entries
import Mathlib.Data.List.Induction
import Mathlib.Data.List.Nodup

/-! # Entries of one name and entries of pairs

The entries of one name are untouched by what is put under another. Entries that are made of pairs
are those pairs if no name is repeated, and a function of the values may be applied before or
after.
-/
namespace ItemStore

theorem find?_key_of_mem {α : Type} {key : α → String} {l : List α} {a : α}
    (distinct : (l.map key).Nodup) (h : a ∈ l) : l.find? (key · = key a) = some a := by
  induction l with
  | nil => cases h
  | cons first rest ih =>
    rw [List.map_cons, List.nodup_cons] at distinct
    rcases List.mem_cons.mp h with rfl | h
    · simp
    · have hne : key first ≠ key a := fun heq => distinct.1 (heq ▸ List.mem_map_of_mem h)
      simpa [hne] using ih distinct.2 h

namespace Entries
variable {α β : Type}

theorem mem_put {entries : Entries α} {name : String} {value : α} {entry : String × α}
    (h : entry ∈ entries.put name value) : entry ∈ entries ∨ entry = (name, value) := by
  induction entries with
  | nil => exact .inr (List.mem_singleton.mp h)
  | cons first rest ih => grind [put]

theorem mem_of_find? {entries : Entries α} {name : String} {value : α}
    (h : entries.find? name = some value) : (name, value) ∈ entries := by
  induction entries with
  | nil => cases h
  | cons first rest ih => grind [find?]

theorem find?_remove (entries : Entries α) (name other : String) :
    (entries.remove name).find? other = if name = other then none else entries.find? other := by
  induction entries with
  | nil => simp [remove]
  | cons entry rest ih => grind [remove, find?]

theorem names_remove (entries : Entries α) (name : String) :
    (entries.remove name).names = entries.names.filter (· ≠ name) := by
  rw [remove, names, names, List.filter_map]
  rfl

theorem remove_of_not_mem {entries : Entries α} {name : String} (h : name ∉ entries.names) :
    entries.remove name = entries := by
  rw [remove, List.filter_eq_self]
  rintro ⟨n, a⟩ hmem
  have hn : n ≠ name := fun hn => h (hn ▸ List.mem_map_of_mem hmem)
  simpa using hn

def only (entries : Entries α) (name : String) : Entries α := entries.filter (·.1 = name)

theorem find?_only (entries : Entries α) (name : String) :
    (entries.only name).find? name = entries.find? name := by
  induction entries with
  | nil => rfl
  | cons entry rest ih =>
    obtain ⟨n, a⟩ := entry
    by_cases h : n = name
    · simp [only, h]
    · simpa [only, h] using ih

theorem only_put_self (entries : Entries α) (name : String) (value : α) :
    (entries.put name value).only name = (entries.only name).put name value := by
  induction entries with
  | nil => simp [only, put]
  | cons entry rest ih =>
    obtain ⟨n, a⟩ := entry
    by_cases h : n = name
    · simp [only, put, h]
    · simpa [only, put, h] using ih

theorem only_put_of_ne (entries : Entries α) {name other : String} (value : α) (h : name ≠ other) :
    (entries.put name value).only other = entries.only other := by
  induction entries with
  | nil => simp [only, put, h]
  | cons entry rest ih =>
    obtain ⟨n, a⟩ := entry
    by_cases hn : n = name
    · simp [only, put, hn, h]
    · by_cases hother : n = other
      · have hback : other ≠ name := h.symm
        simpa [only, put, hother, hback] using ih
      · simpa [only, put, hn, hother] using ih

theorem only_map (entries : Entries α) (f : α → β) (name : String) :
    only (entries.map fun (n, a) => (n, f a)) name =
      (entries.only name).map fun (n, a) => (n, f a) := by
  rw [only, only, List.filter_map]
  rfl

theorem only_eq_toList {entries : Entries α} (distinct : entries.names.Nodup) (name : String) :
    entries.only name = ((entries.find? name).map fun value => (name, value)).toList := by
  induction entries with
  | nil => rfl
  | cons entry rest ih =>
    obtain ⟨n, a⟩ := entry
    rw [names_cons, List.nodup_cons] at distinct
    have hrest := ih distinct.2
    by_cases h : n = name
    · subst h
      rw [find?_eq_none_iff.mpr distinct.1] at hrest
      simpa [only] using hrest
    · simpa [only, h] using hrest

theorem only_eq_of_perm {entries others : Entries α} (h : others.Perm entries)
    (distinct : entries.names.Nodup) (name : String) : others.only name = entries.only name := by
  have hperm : (others.only name).Perm (entries.only name) := h.filter _
  rw [only_eq_toList distinct] at hperm ⊢
  cases hfind : entries.find? name with
  | none =>
    rw [hfind] at hperm
    exact List.perm_nil.mp hperm
  | some value =>
    rw [hfind] at hperm
    exact List.perm_singleton.mp hperm

/-! ### Entries of pairs -/

theorem ofPairs_concat (pairs : List (String × α)) (name : String) (value : α) :
    ofPairs (pairs ++ [(name, value)]) = (ofPairs pairs).put name value := by
  simp [ofPairs]

theorem put_map (entries : Entries α) (f : α → β) (name : String) (value : α) :
    (entries.put name value).map (fun (n, a) => (n, f a)) =
      put (entries.map fun (n, a) => (n, f a)) name (f value) := by
  induction entries with
  | nil => rfl
  | cons entry rest ih =>
    obtain ⟨n, a⟩ := entry
    by_cases h : n = name
    · simp [put, h]
    · simp [put, h, ih]

theorem ofPairs_map (pairs : List (String × α)) (f : α → β) :
    (ofPairs pairs).map (fun (n, a) => (n, f a)) = ofPairs (pairs.map fun (n, a) => (n, f a)) := by
  induction pairs using List.reverseRecOn with
  | nil => rfl
  | append_singleton pairs pair ih =>
    obtain ⟨n, a⟩ := pair
    rw [ofPairs_concat, put_map, ih, List.map_append]
    exact (ofPairs_concat _ n (f a)).symm

theorem ofPairs_of_nodup {pairs : List (String × α)} (distinct : (names pairs).Nodup) :
    ofPairs pairs = pairs := by
  induction pairs using List.reverseRecOn with
  | nil => rfl
  | append_singleton pairs pair ih =>
    obtain ⟨n, a⟩ := pair
    rw [names_append, List.nodup_append] at distinct
    have hnew : n ∉ names pairs := by
      intro hmem
      exact distinct.2.2 n hmem n (by simp) rfl
    rw [ofPairs_concat, ih distinct.1, names_put_of_not_mem a hnew]

theorem mem_of_mem_ofPairs {pairs : List (String × α)} {entry : String × α}
    (h : entry ∈ ofPairs pairs) : entry ∈ pairs := by
  induction pairs using List.reverseRecOn with
  | nil => cases h
  | append_singleton pairs pair ih =>
    obtain ⟨n, a⟩ := pair
    rw [ofPairs_concat] at h
    rcases mem_put h with h | h
    · exact List.mem_append_left _ (ih h)
    · exact List.mem_append_right _ (List.mem_singleton.mpr h)

end Entries

end ItemStore
