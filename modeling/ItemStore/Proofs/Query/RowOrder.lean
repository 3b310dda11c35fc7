import ItemStore.Proofs.Query.StableOrder

/-! # The order of rows by a field

Values of one kind are totally ordered, and so are rows whose values have a kind in common, those
without a value being last. Between other values nothing is settled but that no two rows precede
each other both ways.
-/
namespace ItemStore
open Number (Binary64)

section Comparisons
variable {α β : Type} {cmp : α → α → Ordering}

def nullsLast (cmp : α → α → Ordering) : Option α → Option α → Ordering
  | none, none => .eq
  | none, some _ => .gt
  | some _, none => .lt
  | some a, some b => cmp a b

instance [Std.TransCmp cmp] : Std.TransCmp (nullsLast cmp) where
  eq_swap {a b} := by
    cases a <;> cases b <;> simp [nullsLast]
    exact Std.OrientedCmp.eq_swap
  isLE_trans {a b c} := by
    cases a <;> cases b <;> cases c <;> simp [nullsLast]
    exact Std.TransCmp.isLE_trans

theorem transCmp_comap [Std.TransCmp cmp] (f : β → α) : Std.TransCmp fun a b => cmp (f a) (f b) where
  eq_swap {a b} := (Std.OrientedCmp.eq_swap : cmp (f a) (f b) = (cmp (f b) (f a)).swap)
  isLE_trans hab hbc := (Std.TransCmp.isLE_trans hab hbc : (cmp (f _) (f _)).isLE = true)

theorem transCmp_directed [Std.TransCmp cmp] (direction : Direction) :
    Std.TransCmp fun a b => Row.directed direction (cmp a b) := by
  cases direction with
  | ascending => exact inferInstanceAs (Std.TransCmp cmp)
  | descending =>
    have hswap : (fun a b => Row.directed .descending (cmp a b)) = fun a b => cmp b a := by
      funext a b
      exact Std.OrientedCmp.eq_swap.symm
    rw [hswap]
    exact Std.TransCmp.opposite

end Comparisons

namespace Number.Binary64

/-- The side of zero on which an infinite value lies, and the place of a finite one. -/
def rank : Binary64 → Int × Int
  | .nan => (0, 0)
  | .infinite negative => (if negative then -1 else 1, 0)
  | .finite negative m => (0, signed negative m.units)

def order : Binary64 → Binary64 → Ordering :=
  compareLex (compareOn fun x => x.rank.1) (compareOn fun x => x.rank.2)

instance : Std.TransCmp order := inferInstanceAs (Std.TransCmp (compareLex _ _))

theorem compare?_eq_order {x y : Binary64} (hx : x.isNaN = false) (hy : y.isNaN = false) :
    x.compare? y = some (x.order y) := by
  cases x with
  | nan => cases hx
  | infinite a =>
    cases y with
    | nan => cases hy
    | infinite b => cases a <;> cases b <;> rfl
    | finite b n => cases a <;> rfl
  | finite a m =>
    cases y with
    | nan => cases hy
    | infinite b => cases b <;> rfl
    | finite b n => rfl

theorem compare?_swap (x y : Binary64) : y.compare? x = (x.compare? y).map Ordering.swap := by
  cases hx : x.isNaN with
  | true => cases x <;> cases y <;> first | rfl | cases hx
  | false =>
    cases hy : y.isNaN with
    | true => cases x <;> cases y <;> first | rfl | cases hy
    | false =>
      rw [compare?_eq_order hx hy, compare?_eq_order hy hx, Option.map_some]
      exact congrArg some Std.OrientedCmp.eq_swap

end Number.Binary64

namespace Value

theorem compareTexts_swap (a b : String) : compareTexts b a = (compareTexts a b).swap :=
  Std.OrientedOrd.eq_swap

theorem compareNumbers_swap (a b : String) : compareNumbers b a = (compareNumbers a b).swap := by
  rw [compareNumbers, compareNumbers]
  cases float? a with
  | none => cases float? b <;> exact compareTexts_swap a b
  | some x =>
    cases float? b with
    | none => exact compareTexts_swap a b
    | some y =>
      simp only [x.compare?_swap y]
      cases x.compare? y <;> rfl

theorem compare?_swap (v w : Value) : w.compare? v = (v.compare? w).map Ordering.swap := by
  cases v with
  | string a =>
    cases w with
    | string b => exact congrArg some (compareTexts_swap a b)
    | _ => rfl
  | number a =>
    cases w with
    | number b => exact congrArg some (compareNumbers_swap a b)
    | _ => rfl
  | bool a =>
    cases w with
    | bool b => exact congrArg some Std.OrientedOrd.eq_swap
    | _ => rfl
  | _ => cases w <;> rfl

def key : Value → Binary64
  | .number n => (float? n).getD .zero
  | _ => .zero

def flag : Value → Bool
  | .bool b => b
  | _ => false

/-- A total order that agrees with the comparison of values of one kind. -/
def order : Value → Value → Ordering :=
  compareLex (compareOn text?) (compareLex (fun v w => v.key.order w.key) (compareOn flag))

instance : Std.TransCmp order :=
  have : Std.TransCmp fun v w : Value => v.key.order w.key := transCmp_comap key
  inferInstanceAs (Std.TransCmp (compareLex _ (compareLex _ _)))

theorem compare?_eq_order {v w : Value} {kind : OrderedKind} (hv : v.orderedKind? = some kind)
    (hw : w.orderedKind? = some kind) : v.compare? w = some (v.order w) := by
  have hnumber {n : String} (h : orderedKind? (.number n) = some kind) :
      kind = .number ∧ ∃ x, float? n = some x ∧ x.isNaN = false := by
    rw [orderedKind?] at h
    split at h
    · next hany =>
      cases h
      exact ⟨rfl, by simpa using (Option.any_eq_true _ _).mp hany⟩
    · cases h
  have hzero : Binary64.zero.order Binary64.zero = .eq := Std.ReflCmp.compare_self
  cases v with
  | string a =>
    cases hv
    cases w with
    | string b =>
      have htext : compare (some a) (some b) = compare a b := rfl
      simp [compare?, order, compareLex, compareOn, text?, key, flag, compareTexts, hzero, htext]
    | number m => cases (hnumber hw).1
    | _ => cases hw
  | bool a =>
    cases hv
    cases w with
    | bool b => simp [compare?, order, compareLex, compareOn, text?, key, flag, hzero]
    | number m => cases (hnumber hw).1
    | _ => cases hw
  | number n =>
    obtain ⟨rfl, x, hx, hxnan⟩ := hnumber hv
    cases w with
    | number m =>
      obtain ⟨-, y, hy, hynan⟩ := hnumber hw
      simp [compare?, compareNumbers, order, compareLex, compareOn, text?, key, flag, hx, hy,
        Number.Binary64.compare?_eq_order hxnan hynan]
    | _ => cases hw
  | _ => cases hv

end Value

namespace Row

/-- The order of rows by a field where its values have a kind in common. -/
def order (field : String) (direction : Direction) (a b : Row) : Ordering :=
  nullsLast (fun v w => directed direction (v.order w)) (sortValue? a field) (sortValue? b field)

instance (field : String) (direction : Direction) : Std.TransCmp (order field direction) :=
  have : Std.TransCmp fun v w : Value => directed direction (v.order w) := transCmp_directed direction
  transCmp_comap (sortValue? · field)

def OfKind (rows : List Row) (field : String) (kind : OrderedKind) : Prop :=
  ∀ row ∈ rows, ∀ v, sortValue? row field = some v → v.orderedKind? = some kind

theorem ofKind_of_commonKind? {rows : List Row} {field : String} {kind : OrderedKind}
    (h : commonKind? rows field = some kind) : OfKind rows field kind := by
  intro row hrow v hv
  have hmem : v ∈ rows.filterMap (sortValue? · field) := List.mem_filterMap.mpr ⟨row, hrow, hv⟩
  unfold commonKind? at h
  split at h
  · cases h
  · next first rest hvalues =>
    obtain ⟨hfirst, hrest⟩ := Option.filter_eq_some_iff.mp h
    rw [hvalues] at hmem
    rcases List.mem_cons.mp hmem with rfl | hmem
    · exact hfirst
    · simpa using List.all_eq_true.mp hrest v hmem

section Uniform
variable {rows : List Row} {field : String} {kind : OrderedKind} {a b : Row}

theorem precedesOrTies_eq_order (h : OfKind rows field kind) (direction : Direction)
    (ha : a ∈ rows) (hb : b ∈ rows) :
    precedesOrTies field direction a b = (order field direction a b).isLE := by
  rw [precedesOrTies, order]
  cases hx : sortValue? a field with
  | none => cases sortValue? b field <;> rfl
  | some x =>
    cases hy : sortValue? b field with
    | none => rfl
    | some y =>
      simp only [nullsLast, Value.compare?_eq_order (h a ha x hx) (h b hb y hy), Option.getD_some]
      cases directed direction (x.order y) <;> rfl

theorem precedes_eq_order (h : OfKind rows field kind) (direction : Direction)
    (ha : a ∈ rows) (hb : b ∈ rows) :
    precedes field direction a b = (order field direction a b == .lt) := by
  rw [precedes, order]
  cases hx : sortValue? a field with
  | none => cases sortValue? b field <;> rfl
  | some x =>
    cases hy : sortValue? b field with
    | none => rfl
    | some y =>
      simp only [nullsLast, Value.compare?_eq_order (h a ha x hx) (h b hb y hy), Option.any_some]

/-- The stable sort of rows whose values are of one kind arranges them. -/
theorem exists_arrangement_mergeSort_of_ofKind (h : OfKind rows field kind) (direction : Direction) :
    ∃ tagged, Arrangement (precedes field direction) rows tagged ∧
      tagged.map Prod.fst = rows.mergeSort (precedesOrTies field direction) := by
  have hsort : rows.mergeSort (precedesOrTies field direction) =
      rows.mergeSort fun a b => (order field direction a b).isLE := by
    have hmap := @List.map_mergeSort _ _ (precedesOrTies field direction)
      (fun a b => (order field direction a b).isLE) id rows
      fun a ha b hb => precedesOrTies_eq_order h direction ha hb
    rwa [List.map_id, List.map_id] at hmap
  obtain ⟨tagged, htagged, hrows⟩ := exists_arrangement_mergeSort (order field direction) rows
  refine ⟨tagged, htagged.congr ?_, hrows.trans hsort.symm⟩
  intro a ha b hb
  exact (precedes_eq_order h direction ha hb).symm

end Uniform

/-- No two rows precede each other, whatever their values are. -/
theorem precedes_asymm {field : String} {direction : Direction} {a b : Row}
    (h : precedes field direction a b = true) : precedes field direction b a = false := by
  rw [precedes] at h ⊢
  cases hx : sortValue? a field with
  | none => simp [hx] at h
  | some x =>
    cases hy : sortValue? b field with
    | none => rfl
    | some y =>
      simp only [hx, hy] at h ⊢
      rw [x.compare?_swap y]
      cases hxy : x.compare? y with
      | none => rfl
      | some o =>
        rw [hxy] at h
        cases direction <;> cases o <;> simp_all [directed]

theorem exists_arrangement_sort (rows : List Row) {field : String} (hfield : field ≠ "")
    (direction : Direction) :
    ∃ tagged, Arrangement (precedes field direction) rows tagged ∧
      tagged.map Prod.fst = sort rows field direction := by
  rw [sort, if_neg hfield]
  split
  · next hkind =>
    obtain ⟨kind, hkind⟩ := Option.isSome_iff_exists.mp hkind
    exact exists_arrangement_mergeSort_of_ofKind (ofKind_of_commonKind? hkind) direction
  · exact exists_arrangement_insertionSort (fun _ _ => precedes_asymm) rows

theorem absent_last_of_arrangement {rows : List Row} {field : String} {direction : Direction}
    {tagged : List (Row × Nat)} (h : Arrangement (precedes field direction) rows tagged) :
    tagged.Pairwise fun x y =>
      sortValue? x.1 field = none → sortValue? y.1 field = none ∧ x.2 < y.2 := by
  let absentAfter (a b : Row) : Prop := sortValue? a field = none → sortValue? b field = none
  have hchain : (tagged.map Prod.fst).IsChain absentAfter := by
    refine h.settled.imp ?_
    intro a b hab ha
    cases hb : sortValue? b field with
    | none => rfl
    | some y => simp [precedes, ha, hb] at hab
  have : Trans absentAfter absentAfter absentAfter := ⟨fun hab hbc ha => hbc (hab ha)⟩
  have habsent := List.pairwise_map.mp (List.isChain_iff_pairwise.mp hchain)
  refine (h.kept.and habsent).imp ?_
  rintro x y ⟨hkept, hxy⟩ hx
  refine ⟨hxy hx, ?_⟩
  rcases hkept with hlt | hprecedes
  · exact hlt
  · simp [precedes, hx] at hprecedes

/-- Sorted rows are the same rows, each with its place in the input. Two of them change their order
only if the later one precedes the earlier one, so ties and values without an order among each other
stay; no row precedes the one before it; and those without a value come last, in either direction. -/
theorem sort_arranges (rows : List Row) (field : String) (direction : Direction)
    (hfield : field ≠ "") :
    (sort rows field direction).Perm rows ∧
    (sort rows field direction).IsChain (fun a b => precedes field direction b a = false) ∧
    ∃ tagged : List (Row × Nat), tagged.Perm rows.zipIdx ∧
      tagged.map Prod.fst = sort rows field direction ∧
      (tagged.Pairwise fun x y => y.2 < x.2 → precedes field direction x.1 y.1 = true) ∧
      (tagged.Pairwise fun x y => ∀ v w, sortValue? x.1 field = some v →
        sortValue? y.1 field = some w → v.compare? w = none ∨ v.compare? w = some .eq → x.2 < y.2) ∧
      tagged.Pairwise fun x y =>
        sortValue? x.1 field = none → sortValue? y.1 field = none ∧ x.2 < y.2 := by
  obtain ⟨tagged, h, hrows⟩ := exists_arrangement_sort rows hfield direction
  refine ⟨sort_perm rows field direction, hrows ▸ h.settled, tagged, h.perm, hrows, ?_, ?_,
    absent_last_of_arrangement h⟩
  · refine h.kept.imp ?_
    rintro x y (hlt | hprecedes) hyx
    · exact absurd hyx (Nat.lt_asymm hlt)
    · exact hprecedes
  · refine h.kept.imp ?_
    rintro x y (hlt | hprecedes) v w hv hw hties
    · exact hlt
    · rcases hties with hties | hties <;>
        cases direction <;> simp [precedes, hv, hw, hties, directed] at hprecedes

/-- Texts, a truth value and a null: the null moves to the end and the texts keep their order, as
the truth value stands between them. -/
theorem sort_arranges_of_mixed_kinds :
    let rows : List Row := [
      [("k", .null)], [("k", .string "b")], [("k", .bool true)], [("k", .string "a")]]
    sort rows "k" .ascending =
      [[("k", .string "b")], [("k", .bool true)], [("k", .string "a")], [("k", .null)]] ∧
    (sort rows "k" .ascending).IsChain (fun a b => precedes "k" .ascending b a = false) := by
  intro rows
  refine ⟨?_, (sort_arranges rows "k" .ascending (by decide)).2.1⟩
  rfl

end Row

end ItemStore
