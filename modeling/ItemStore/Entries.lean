/-! # Entries in insertion order

A list of named values with one value per name. A new name goes to the end, and a name that is
already there keeps its place and takes the new value.
-/
namespace ItemStore

abbrev Entries (α : Type) := List (String × α)

namespace Entries
variable {α β : Type}

def names (entries : Entries α) : List String := entries.map Prod.fst

def find? (entries : Entries α) (name : String) : Option α :=
  match entries with
  | [] => none
  | (n, a) :: rest => if n = name then some a else find? rest name

def put (entries : Entries α) (name : String) (value : α) : Entries α :=
  match entries with
  | [] => [(name, value)]
  | (n, a) :: rest => if n = name then (n, value) :: rest else (n, a) :: put rest name value

def remove (entries : Entries α) (name : String) : Entries α :=
  entries.filter fun entry => entry.1 ≠ name

def has (entries : Entries α) (name : String) : Bool := (entries.find? name).isSome

/-- The entries of a list of pairs in which a name may be repeated: its first place and its last
value count. -/
def ofPairs (pairs : List (String × α)) : Entries α :=
  pairs.foldl (fun entries pair => put entries pair.1 pair.2) []

@[simp] theorem find?_nil (name : String) : find? ([] : Entries α) name = none := rfl

@[simp] theorem find?_cons (n name : String) (a : α) (rest : Entries α) :
    find? ((n, a) :: rest) name = if n = name then some a else find? rest name := by
  rw [find?]

@[simp] theorem names_nil : names ([] : Entries α) = [] := rfl

@[simp] theorem names_cons (n : String) (a : α) (rest : Entries α) :
    names ((n, a) :: rest) = n :: names rest := rfl

@[simp] theorem names_append (entries more : Entries α) :
    names (entries ++ more) = names entries ++ names more := List.map_append

theorem find?_append (entries more : Entries α) (name : String) :
    find? (entries ++ more) name = (find? entries name).or (find? more name) := by
  induction entries with
  | nil => simp
  | cons entry rest ih =>
    obtain ⟨n, a⟩ := entry
    by_cases h : n = name <;> simp [h, ih]

theorem find?_eq_none_iff {entries : Entries α} {name : String} :
    entries.find? name = none ↔ name ∉ entries.names := by
  induction entries with
  | nil => simp
  | cons entry rest ih =>
    obtain ⟨n, a⟩ := entry
    by_cases h : n = name <;> simp [h, ih, Ne.symm, eq_comm]

theorem mem_names_of_find? {entries : Entries α} {name : String} {value : α}
    (h : entries.find? name = some value) : name ∈ entries.names :=
  Decidable.byContradiction fun hn => by simp [find?_eq_none_iff.mpr hn] at h

theorem find?_map (entries : Entries α) (f : α → β) (name : String) :
    find? (entries.map fun (n, a) => (n, f a)) name = (find? entries name).map f := by
  induction entries with
  | nil => rfl
  | cons entry rest ih =>
    obtain ⟨n, a⟩ := entry
    by_cases h : n = name <;> simp [h, ih]

/-- Where names are distinct, an entry is the one that is found under its name. -/
theorem find?_eq_some_of_mem {entries : Entries α} {name : String} {value : α}
    (distinct : entries.names.Nodup) (h : (name, value) ∈ entries) :
    entries.find? name = some value := by
  induction entries with
  | nil => simp at h
  | cons entry rest ih =>
    obtain ⟨n, a⟩ := entry
    rw [names_cons, List.nodup_cons] at distinct
    rcases List.mem_cons.mp h with h | h
    · simp_all
    · have hn : n ≠ name := by
        rintro rfl
        exact distinct.1 (List.mem_map_of_mem h)
      rw [find?_cons, if_neg hn]
      exact ih distinct.2 h

theorem find?_put (entries : Entries α) (name other : String) (value : α) :
    (entries.put name value).find? other = if name = other then some value else entries.find? other := by
  induction entries with
  | nil => simp [put]
  | cons entry rest ih => grind [put, find?]

theorem names_put_of_mem {entries : Entries α} {name : String} (value : α)
    (h : name ∈ entries.names) : (entries.put name value).names = entries.names := by
  induction entries with
  | nil => simp [names] at h
  | cons entry rest ih => grind [put, names]

theorem names_put_of_not_mem {entries : Entries α} {name : String} (value : α)
    (h : name ∉ entries.names) : entries.put name value = entries ++ [(name, value)] := by
  induction entries with
  | nil => rfl
  | cons entry rest ih => grind [put, names]

theorem has_iff_mem {entries : Entries α} {name : String} :
    entries.has name = true ↔ name ∈ entries.names := by
  induction entries with
  | nil => simp [has, names]
  | cons entry rest ih => grind [has, names, find?]

theorem nodup_put {entries : Entries α} (name : String) (value : α) (h : entries.names.Nodup) :
    (entries.put name value).names.Nodup := by
  by_cases hm : name ∈ entries.names
  · rwa [names_put_of_mem value hm]
  · rw [names_put_of_not_mem value hm]
    simp_all [names, List.nodup_append]
    grind

/-- Among the entries of a list of pairs no name is repeated. -/
theorem nodup_ofPairs (pairs : List (String × α)) : (ofPairs pairs).names.Nodup := by
  have hfold (entries : Entries α) (h : entries.names.Nodup) :
      (names (pairs.foldl (fun entries pair => put entries pair.1 pair.2) entries)).Nodup := by
    induction pairs generalizing entries with
    | nil => exact h
    | cons pair rest ih => exact ih _ (nodup_put pair.1 pair.2 h)
  exact hfold [] List.nodup_nil

end Entries

end ItemStore
