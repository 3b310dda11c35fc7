import ItemStore.Proofs.Query.SortAgreement

/-! # Sorting sorted rows

Rows in which none precedes the one before it are left as they are by both ways to sort. Sorting
leaves such rows behind, so that sorting them again changes nothing, although values of different
kinds need not be in any order as a whole.
-/
namespace ItemStore

section Insertion
variable {α : Type} {precedes : α → α → Bool}

/-- An element that does not precede the last one stays behind it. -/
theorem insertBack_eq_cons {a : α} {as : List α} (h : ∀ last ∈ as.head?, precedes a last = false) :
    insertBack precedes a as = a :: as := by
  cases as with
  | nil => rfl
  | cons last before => rw [insertBack, h last rfl, if_neg Bool.false_ne_true]

/-- By induction on the elements that are still to be inserted: those before them are, in reverse,
what has been inserted. -/
theorem insertionSort_of_isChain {as : List α} (h : as.IsChain fun a b => precedes b a = false) :
    insertionSort precedes as = as := by
  have hfold (as inserted : List α)
      (hchain : (inserted.reverse ++ as).IsChain fun a b => precedes b a = false) :
      as.foldl (fun sorted a => insertBack precedes a sorted) inserted = as.reverse ++ inserted := by
    induction as generalizing inserted with
    | nil => rfl
    | cons a as ih =>
      obtain ⟨-, -, hlast⟩ := List.isChain_append.mp hchain
      have hstays : insertBack precedes a inserted = a :: inserted :=
        insertBack_eq_cons fun last hmem => hlast last (by rwa [List.getLast?_reverse]) a rfl
      rw [List.foldl_cons, hstays, ih (a :: inserted) (by simpa using hchain), List.reverse_cons,
        List.append_assoc, List.singleton_append]
  rw [insertionSort, hfold as [] h, List.append_nil, List.reverse_reverse]

/-- A list in which no element precedes the one before it is arranged as it stands. -/
theorem arrangement_zipIdx {as : List α} (h : as.IsChain fun a b => precedes b a = false) :
    Arrangement precedes as as.zipIdx where
  perm := .refl _
  kept := (pairwise_snd_zipIdx as).imp .inl
  settled := by rwa [List.zipIdx_map_fst]

end Insertion

namespace Row
variable {rows : List Row} {field : String} {direction : Direction}

theorem isChain_sort (rows : List Row) (hfield : field ≠ "") (direction : Direction) :
    (sort rows field direction).IsChain fun a b => precedes field direction b a = false := by
  obtain ⟨tagged, harranged, hrows⟩ := exists_arrangement_sort rows hfield direction
  exact hrows ▸ harranged.settled

/-- Rows without a neighbour to pass are fixed by either way to sort: insertion moves none of them,
and where their values have a kind in common, they are their only arrangement. -/
theorem sort_of_isChain (h : rows.IsChain fun a b => precedes field direction b a = false) :
    sort rows field direction = rows := by
  unfold sort
  split
  · rfl
  · split
    · next hkind =>
      obtain ⟨kind, hkind⟩ := Option.isSome_iff_exists.mp hkind
      have huniform := ofKind_of_commonKind? hkind
      obtain ⟨tagged, harranged, hrows⟩ := exists_arrangement_mergeSort_of_ofKind huniform direction
      rw [← hrows, eq_of_arrangements huniform harranged (arrangement_zipIdx h), List.zipIdx_map_fst]
    · exact insertionSort_of_isChain h

/-- Rows are left as they are exactly if no row precedes the one before it. Sorted rows are of this
kind, whatever mixture of values they hold, and so sorting them a second time changes nothing. -/
theorem sort_sort (rows : List Row) (field : String) (direction : Direction) :
    (sort rows field direction = rows ↔
      field = "" ∨ rows.IsChain fun a b => precedes field direction b a = false) ∧
    sort (sort rows field direction) field direction = sort rows field direction := by
  by_cases hfield : field = ""
  · have hsame (rows : List Row) : sort rows field direction = rows := by rw [sort, if_pos hfield]
    exact ⟨iff_of_true (hsame rows) (.inl hfield), hsame _⟩
  · have hsorted := isChain_sort rows hfield direction
    refine ⟨⟨fun hfixed => .inr (hfixed ▸ hsorted), ?_⟩, sort_of_isChain hsorted⟩
    rintro (hempty | hchain)
    · exact absurd hempty hfield
    · exact sort_of_isChain hchain

end Row

end ItemStore
