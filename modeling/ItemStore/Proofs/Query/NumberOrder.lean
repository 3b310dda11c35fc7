import ItemStore.Proofs.Number.Numerals
import ItemStore.Proofs.Query.RowOrder

/-! # The order of integers

Numbers are compared as values of the 64-bit binary format. Integers that are rounded to different
values come in their exact order, as rounding never turns two integers around, and integers that are
rounded to one value are ties.
-/
namespace ItemStore.Row
open Number (Binary64)

attribute [local instance (2000)] instPowNat

def integer? (row : Row) (field : String) : Option Int :=
  match Entries.find? row field with
  | some (.number n) => Number.integer? n.toList
  | _ => none

section Integers
variable {rows : List Row} {field : String} {direction : Direction} {a b : Row} {i j : Int}

theorem exists_of_integer? (h : integer? a field = some i) :
    ∃ n x, sortValue? a field = some (.number n) ∧ Value.float? n = some x ∧ x.isNaN = false ∧
      x.position = (Binary64.ofInt i).position := by
  unfold integer? at h
  split at h
  · next n hfind =>
    obtain ⟨x, hx, hnan, hposition⟩ := Number.exists_readFloat?_of_integer? h
    obtain ⟨p, htext, -⟩ := Number.exists_numeral_of_integer? h
    refine ⟨n, x, ?_, ?_, hnan, hposition⟩
    · rw [sortValue?, hfind]
      rfl
    · rw [Value.float?, ← htext, p.trim_text, htext, hx]
  · cases h

theorem ofKind_of_integers (h : ∀ row ∈ rows, ∃ i, integer? row field = some i) :
    OfKind rows field .number := by
  intro row hrow v hv
  obtain ⟨i, hi⟩ := h row hrow
  obtain ⟨n, x, hvalue, hx, hnan, -⟩ := exists_of_integer? hi
  rw [hvalue] at hv
  cases hv
  simp [Value.orderedKind?, hx, hnan]

/-- Rows with integers are ordered by the places of the rounded integers. -/
theorem order_eq_compare_position (ha : integer? a field = some i) (hb : integer? b field = some j) :
    order field direction a b =
      directed direction (compare (Binary64.ofInt i).position (Binary64.ofInt j).position) := by
  obtain ⟨n, x, hav, hx, hxnan, hxposition⟩ := exists_of_integer? ha
  obtain ⟨m, y, hbv, hy, hynan, hyposition⟩ := exists_of_integer? hb
  have hkind {n : String} {x : Binary64} (hx : Value.float? n = some x) (hnan : x.isNaN = false) :
      (Value.number n).orderedKind? = some .number := by
    simp [Value.orderedKind?, hx, hnan]
  have hvalues : (Value.number n).compare? (.number m) = some (compare x.position y.position) := by
    simp [Value.compare?, Value.compareNumbers, hx, hy,
      Binary64.compare?_eq_compare_position hxnan hynan]
  rw [Value.compare?_eq_order (hkind hx hxnan) (hkind hy hynan)] at hvalues
  rw [order, hav, hbv, nullsLast, Option.some.inj hvalues, hxposition, hyposition]

theorem directed_compare_self (direction : Direction) (i : Int) :
    directed direction (compare i i) = .eq := by
  rw [Int.compare_eq_eq.mpr rfl]
  cases direction <;> rfl

theorem eq_of_directed_compare (h : directed direction (compare i j) = .eq) : i = j := by
  cases direction with
  | ascending => exact Int.compare_eq_eq.mp h
  | descending => exact Int.compare_eq_eq.mp (Ordering.swap_eq_eq.mp h)

/-- What a monotone function tells apart is in the same order before it. -/
theorem directed_compare_of_map {f : Int → Int} (hf : ∀ {i j}, i ≤ j → f i ≤ f j)
    (h : directed direction (compare (f i) (f j)) = .lt) : directed direction (compare i j) = .lt := by
  have hlt {i j : Int} (h : f i < f j) : i < j := by
    apply Int.lt_of_not_ge
    intro hle
    exact absurd (hf hle) (Int.not_le.mpr h)
  cases direction with
  | ascending => exact Int.compare_eq_lt.mpr (hlt (Int.compare_eq_lt.mp h))
  | descending =>
    have hgt := Int.compare_eq_gt.mp (Ordering.swap_eq_lt.mp h)
    exact Ordering.swap_eq_lt.mpr (Int.compare_eq_gt.mpr (hlt hgt))

end Integers

/-- Where rows hold values of one kind, a row stands before another one because it precedes it, or as
a tie because it did before. -/
theorem exists_sorted_of_ofKind {rows : List Row} {field : String} {kind : OrderedKind}
    (h : OfKind rows field kind) (hfield : field ≠ "") (direction : Direction) :
    ∃ tagged : List (Row × Nat), tagged.Perm rows.zipIdx ∧
      tagged.map Prod.fst = sort rows field direction ∧
      tagged.Pairwise fun x y => order field direction x.1 y.1 = .lt ∨
        order field direction x.1 y.1 = .eq ∧ x.2 < y.2 := by
  obtain ⟨tagged, harranged, hsort⟩ := exists_arrangement_sort rows hfield direction
  have hordered := harranged.congr fun a ha b hb => precedes_eq_order h direction ha hb
  obtain ⟨hperm, hstable⟩ := (arrangement_iff_stable (order field direction)).mp hordered
  refine ⟨tagged, hperm, hsort, (hstable.and hordered.kept).imp ?_⟩
  rintro x y ⟨hle, hkept⟩
  rw [List.zipIdxLE] at hle
  cases hxy : order field direction x.1 y.1 with
  | lt => exact .inl rfl
  | eq => exact .inr ⟨rfl, by simpa [hxy] using hkept⟩
  | gt => simp [hxy] at hle

/-- Rows with an integer each, of any number of digits, are sorted by the values of the 64-bit binary
format that are nearest to the integers. Of two rows whose integers have different nearest values the
one with the smaller integer comes first, or in descending order the one with the larger; rows whose
integers have the same nearest value keep their order. So the integers up to 2^53 in size come in
their exact order. -/
theorem sort_integers (rows : List Row) (field : String) (direction : Direction)
    (hfield : field ≠ "") (hrows : ∀ row ∈ rows, ∃ i, integer? row field = some i) :
    (sort rows field direction).Perm rows ∧
    (∃ tagged : List (Row × Nat), tagged.Perm rows.zipIdx ∧
      tagged.map Prod.fst = sort rows field direction ∧
      tagged.Pairwise fun x y => ∀ i j, integer? x.1 field = some i → integer? y.1 field = some j →
        if Binary64.ofInt i = Binary64.ofInt j then x.2 < y.2
        else directed direction (compare i j) = .lt) ∧
    (sort rows field direction).Pairwise fun a b => ∀ i j, integer? a field = some i →
      integer? b field = some j → i.natAbs ≤ 2 ^ (53 : Nat) → j.natAbs ≤ 2 ^ (53 : Nat) →
        directed direction (compare i j) ≠ .gt := by
  obtain ⟨tagged, hperm, hsort, hsorted⟩ :=
    exists_sorted_of_ofKind (ofKind_of_integers hrows) hfield direction
  have hintegers : tagged.Pairwise fun x y => ∀ i j, integer? x.1 field = some i →
      integer? y.1 field = some j → if Binary64.ofInt i = Binary64.ofInt j then x.2 < y.2
        else directed direction (compare i j) = .lt := by
    refine hsorted.imp ?_
    intro x y hxy i j hi hj
    rw [order_eq_compare_position hi hj] at hxy
    rcases hxy with hlt | ⟨heq, hplace⟩
    · have hne : Binary64.ofInt i ≠ Binary64.ofInt j := by
        intro hsame
        rw [hsame, directed_compare_self] at hlt
        cases hlt
      rw [if_neg hne]
      exact directed_compare_of_map Binary64.position_ofInt_mono hlt
    · rwa [if_pos (Binary64.ofInt_eq_of_position_eq (eq_of_directed_compare heq))]
  refine ⟨sort_perm rows field direction, ⟨tagged, hperm, hsort, hintegers⟩, ?_⟩
  rw [← hsort, List.pairwise_map]
  refine hintegers.imp ?_
  intro x y hxy i j hi hj hismall hjsmall
  have hxy := hxy i j hi hj
  split at hxy
  · next hsame =>
    rw [Binary64.eq_of_ofInt_eq hismall hjsmall hsame, directed_compare_self]
    decide
  · rw [hxy]
    decide

/-- A time in nanoseconds beside a smaller count, in descending order. -/
theorem sort_integers_of_times :
    let rows : List Row := [[("t", .number "12")], [("t", .number "-7")],
      [("t", .number "1700000000000000000")]]
    (∀ row ∈ rows, ∃ i, integer? row "t" = some i) ∧
      (sort rows "t" .descending).Pairwise (fun a b => ∀ i j, integer? a "t" = some i →
        integer? b "t" = some j → i.natAbs ≤ 2 ^ (53 : Nat) → j.natAbs ≤ 2 ^ (53 : Nat) →
          directed .descending (compare i j) ≠ .gt) := by
  intro rows
  have hrows : ∀ row ∈ rows, ∃ i, integer? row "t" = some i := by
    intro row hrow
    simp only [rows, List.mem_cons, List.not_mem_nil, or_false] at hrow
    rcases hrow with rfl | rfl | rfl
    · exact ⟨12, by decide +kernel⟩
    · exact ⟨-7, by decide +kernel⟩
    · exact ⟨1700000000000000000, by decide +kernel⟩
  exact ⟨hrows, (sort_integers rows "t" .descending (by decide) hrows).2.2⟩

/-- Two neighbours beyond 2^53 with the same nearest value stay as they came, the larger one first.
An empty field asks for no sort. -/
theorem sort_keeps_rounded_ties :
    let rows : List Row :=
      [[("id", .number "9007199254740993")], [("id", .number "9007199254740992")]]
    (sort rows "id" .ascending).map (integer? · "id") =
      [some 9007199254740993, some 9007199254740992] ∧
    (sort [[("", .number "2")], [("", .number "1")]] "" .ascending).map (integer? · "") =
      [some 2, some 1] := by
  intro rows
  refine ⟨?_, by decide +kernel⟩
  have hkind : commonKind? rows "id" = some .number := by decide +kernel
  have hties : rows.Pairwise fun a b => precedesOrTies "id" .ascending a b = true := by decide +kernel
  rw [sort, if_neg (by decide), hkind, Option.isSome_some, if_pos rfl,
    List.mergeSort_of_pairwise hties]
  decide +kernel

end ItemStore.Row
