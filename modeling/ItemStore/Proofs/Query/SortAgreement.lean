import ItemStore.Proofs.Query.RowOrder

/-! # The two ways to sort agree

Rows are sorted stably where their values are of one kind, and by insertion otherwise. On rows of
one kind the choice does not show: a total order has only one arrangement that leaves ties in place,
and both sorts arrive at it.
-/
namespace ItemStore.Row

/-- All values that rows hold under a field are texts, or all are truth values, or all are numbers
whose texts, but for blanks around them, denote a value that can be compared. -/
inductive Comparable (rows : List Row) (field : String) : Prop
  | texts (h : ∀ row ∈ rows, ∀ v, sortValue? row field = some v → ∃ s, v = .string s)
  | flags (h : ∀ row ∈ rows, ∀ v, sortValue? row field = some v → ∃ b, v = .bool b)
  | numbers (h : ∀ row ∈ rows, ∀ v, sortValue? row field = some v →
      ∃ n x, v = .number n ∧ Value.float? n = some x ∧ x ≠ .nan)

variable {rows : List Row} {field : String} {kind : OrderedKind}

theorem Comparable.exists_ofKind (h : Comparable rows field) : ∃ kind, OfKind rows field kind := by
  cases h with
  | texts h =>
    refine ⟨.text, ?_⟩
    intro row hrow v hv
    obtain ⟨s, rfl⟩ := h row hrow v hv
    rfl
  | flags h =>
    refine ⟨.bool, ?_⟩
    intro row hrow v hv
    obtain ⟨b, rfl⟩ := h row hrow v hv
    rfl
  | numbers h =>
    refine ⟨.number, ?_⟩
    intro row hrow v hv
    obtain ⟨n, x, rfl, hx, hnan⟩ := h row hrow v hv
    have hcompares : x.isNaN = false := by
      cases x with
      | nan => exact absurd rfl hnan
      | infinite negative => rfl
      | finite negative m => rfl
    simp [Value.orderedKind?, hx, hcompares]

theorem eq_of_arrangements (h : OfKind rows field kind) {direction : Direction}
    {tagged other : List (Row × Nat)} (htagged : Arrangement (precedes field direction) rows tagged)
    (hother : Arrangement (precedes field direction) rows other) : tagged = other := by
  apply Arrangement.unique (order field direction)
  · exact htagged.congr fun a ha b hb => precedes_eq_order h direction ha hb
  · exact hother.congr fun a ha b hb => precedes_eq_order h direction ha hb

/-- A list of rows that is in order, with ties in the order of their places, is an arrangement. -/
theorem arrangement_of_stable (h : OfKind rows field kind) {direction : Direction}
    {tagged : List (Row × Nat)} (hperm : tagged.Perm rows.zipIdx)
    (hsorted : tagged.Pairwise fun x y => List.zipIdxLE (precedesOrTies field direction) x y = true) :
    Arrangement (precedes field direction) rows tagged := by
  have hmem {x : Row × Nat} (hx : x ∈ tagged) : x.1 ∈ rows := by
    have hfst : x.1 ∈ rows.zipIdx.map Prod.fst := List.mem_map_of_mem (hperm.mem_iff.mp hx)
    rwa [List.zipIdx_map_fst] at hfst
  have harranged : Arrangement (fun a b => order field direction a b == .lt) rows tagged := by
    refine (arrangement_iff_stable (order field direction)).mpr ⟨hperm, hsorted.imp_of_mem ?_⟩
    intro x y hx hy hxy
    rwa [List.zipIdxLE, precedesOrTies_eq_order h direction (hmem hx) (hmem hy),
      precedesOrTies_eq_order h direction (hmem hy) (hmem hx)] at hxy
  exact harranged.congr fun a ha b hb => (precedes_eq_order h direction ha hb).symm

/-- Where the values of a field can all be compared with each other, the stable sort and the sort by
insertion give the same list, and so does any other way to bring the rows in order that keeps ties
in the order in which they came. -/
theorem mergeSort_eq_insertionSort (h : Comparable rows field) (direction : Direction) :
    rows.mergeSort (precedesOrTies field direction) =
      insertionSort (precedes field direction) rows ∧
    ∀ tagged : List (Row × Nat), tagged.Perm rows.zipIdx →
      (tagged.Pairwise fun x y => List.zipIdxLE (precedesOrTies field direction) x y = true) →
      tagged.map Prod.fst = insertionSort (precedes field direction) rows := by
  obtain ⟨kind, hkind⟩ := h.exists_ofKind
  have hasymm (a b : Row) (hab : precedes field direction a b = true) :
      precedes field direction b a = false := precedes_asymm hab
  obtain ⟨inserted, hinserted, hinsertion⟩ := exists_arrangement_insertionSort hasymm rows
  constructor
  · obtain ⟨merged, hmerged, hmerge⟩ := exists_arrangement_mergeSort_of_ofKind hkind direction
    rw [← hmerge, ← hinsertion, eq_of_arrangements hkind hmerged hinserted]
  · intro tagged hperm hsorted
    rw [← hinsertion, eq_of_arrangements hkind (arrangement_of_stable hkind hperm hsorted) hinserted]

/-- Two infinities, two zeros with blanks around one of them, a null and a row without the field,
in descending order: the zeros are ties, and what is absent comes last. -/
theorem mergeSort_eq_insertionSort_of_zeros :
    let rows : List Row := [
      [("id", .string "a"), ("k", .number "-inf")], [("id", .string "b"), ("k", .null)],
      [("id", .string "c"), ("k", .number "-0")], [("id", .string "d")],
      [("id", .string "e"), ("k", .number " 0.0 ")], [("id", .string "f"), ("k", .number "1e400")]]
    Comparable rows "k" ∧
      (rows.mergeSort (precedesOrTies "k" .descending)).map
        (fun row => (Entries.find? row "id").bind Value.text?) =
        [some "f", some "c", some "e", some "a", some "b", some "d"] := by
  intro rows
  have hnumber (row : Row) (n : String) (x : Number.Binary64) (v : Value)
      (hrow : sortValue? row "k" = some (.number n)) (hx : Value.float? n = some x)
      (hnan : x ≠ .nan) (hv : sortValue? row "k" = some v) :
      ∃ n x, v = .number n ∧ Value.float? n = some x ∧ x ≠ .nan := by
    rw [hrow] at hv
    cases hv
    exact ⟨n, x, rfl, hx, hnan⟩
  have hcomparable : Comparable rows "k" := by
    apply Comparable.numbers
    intro row hrow v hv
    simp only [rows, List.mem_cons, List.not_mem_nil, or_false] at hrow
    rcases hrow with rfl | rfl | rfl | rfl | rfl | rfl
    · exact hnumber _ "-inf" (.infinite true) v rfl (by decide +kernel) (by decide) hv
    · cases hv
    · exact hnumber _ "-0" (.finite true .zero) v rfl (by decide +kernel) (by decide) hv
    · cases hv
    · exact hnumber _ " 0.0 " (.finite false .zero) v rfl (by decide +kernel) (by decide) hv
    · exact hnumber _ "1e400" (.infinite false) v rfl (by decide +kernel) (by decide) hv
  refine ⟨hcomparable, ?_⟩
  rw [(mergeSort_eq_insertionSort hcomparable .descending).1]
  decide +kernel

end ItemStore.Row
