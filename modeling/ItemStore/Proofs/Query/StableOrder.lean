import ItemStore.Query.Sort
import Mathlib.Data.List.Chain

/-! # Arrangements that keep the order

An arrangement of a list changes the order of two elements only if the later one has to stand before
the earlier one. The relation need not be transitive: insertion by neighbours arranges by any
relation that holds at most one way, and a stable sort arranges by the order it sorts by.
-/
namespace ItemStore

variable {α β : Type}

/-- Elements with their places in the input, brought into an order that leaves neighbours alone
unless one has to stand before the other. -/
structure Arrangement (precedes : α → α → Bool) (input : List α) (tagged : List (α × Nat)) : Prop where
  perm : tagged.Perm input.zipIdx
  kept : tagged.Pairwise fun x y => x.2 < y.2 ∨ precedes x.1 y.1 = true
  settled : (tagged.map Prod.fst).IsChain fun a b => precedes b a = false

theorem pairwise_snd_zipIdx (as : List α) : as.zipIdx.Pairwise fun x y => x.2 < y.2 := by
  rw [← List.pairwise_map (f := Prod.snd) (R := (· < ·)), List.zipIdx_map_snd]
  exact List.pairwise_lt_range'

theorem Arrangement.perm_fst {precedes : α → α → Bool} {input : List α} {tagged : List (α × Nat)}
    (h : Arrangement precedes input tagged) : (tagged.map Prod.fst).Perm input := by
  have hperm := h.perm.map Prod.fst
  rwa [List.zipIdx_map_fst] at hperm

theorem Arrangement.mem_input {precedes : α → α → Bool} {input : List α} {tagged : List (α × Nat)}
    (h : Arrangement precedes input tagged) {x : α × Nat} (hx : x ∈ tagged) : x.1 ∈ input :=
  h.perm_fst.mem_iff.mp (List.mem_map_of_mem hx)

/-- Only what the relation says of the elements of the input counts. -/
theorem Arrangement.congr {precedes other : α → α → Bool} {input : List α} {tagged : List (α × Nat)}
    (h : Arrangement precedes input tagged)
    (heq : ∀ a ∈ input, ∀ b ∈ input, precedes a b = other a b) : Arrangement other input tagged where
  perm := h.perm
  kept := by
    refine h.kept.imp_of_mem ?_
    intro x y hx hy hxy
    rwa [← heq x.1 (h.mem_input hx) y.1 (h.mem_input hy)]
  settled := by
    refine h.settled.imp_of_mem_imp ?_
    intro a b ha hb hab
    rwa [← heq b (h.perm_fst.mem_iff.mp hb) a (h.perm_fst.mem_iff.mp ha)]

section Insertion
variable (precedes : α → α → Bool)

theorem map_insertBack (f : β → α) (b : β) (bs : List β) :
    (insertBack (fun x y => precedes (f x) (f y)) b bs).map f =
      insertBack precedes (f b) (bs.map f) := by
  induction bs with
  | nil => rfl
  | cons last before ih =>
    simp only [insertBack, List.map_cons]
    split
    · rw [List.map_cons, ih]
    · rfl

/-- What is carried along with the elements takes no part in the insertions. -/
theorem map_insertionSort (f : β → α) (bs : List β) :
    (insertionSort (fun x y => precedes (f x) (f y)) bs).map f = insertionSort precedes (bs.map f) := by
  have hfold (sorted : List β) :
      (bs.foldl (fun sorted b => insertBack (fun x y => precedes (f x) (f y)) b sorted) sorted).map f =
        (bs.map f).foldl (fun sorted a => insertBack precedes a sorted) (sorted.map f) := by
    induction bs generalizing sorted with
    | nil => rfl
    | cons b bs ih => rw [List.foldl_cons, List.map_cons, List.foldl_cons, ih, map_insertBack]
  rw [insertionSort, insertionSort, List.map_reverse, hfold, List.map_nil]

variable {precedes}

/-- An element moves only past elements that it precedes. -/
theorem pairwise_insertBack {R : α → α → Prop} (hprecedes : ∀ a b, precedes a b = true → R a b)
    {a : α} {as : List α} (has : as.Pairwise fun y x => R x y) (ha : ∀ x ∈ as, R x a) :
    (insertBack precedes a as).Pairwise fun y x => R x y := by
  induction as with
  | nil => exact List.pairwise_singleton _ _
  | cons last before ih =>
    obtain ⟨hlast, hbefore⟩ := List.pairwise_cons.mp has
    rw [insertBack]
    split
    · next hpass =>
      refine List.pairwise_cons.mpr ⟨?_, ih hbefore fun x hx => ha x (List.mem_cons_of_mem _ hx)⟩
      intro x hx
      rcases List.mem_cons.mp ((insertBack_perm precedes a before).mem_iff.mp hx) with rfl | hx
      · exact hprecedes x last hpass
      · exact hlast x hx
    · exact List.pairwise_cons.mpr ⟨ha, has⟩

/-- Insertions keep what holds of all pairs of the input, if it also holds of every pair that they
may swap. -/
theorem pairwise_insertionSort {R : α → α → Prop} (hprecedes : ∀ a b, precedes a b = true → R a b)
    {as : List α} (has : as.Pairwise R) : (insertionSort precedes as).Pairwise R := by
  have hfold (sorted : List α) (hsorted : sorted.Pairwise fun y x => R x y)
      (hcross : ∀ x ∈ sorted, ∀ a ∈ as, R x a) :
      (as.foldl (fun sorted a => insertBack precedes a sorted) sorted).Pairwise fun y x => R x y := by
    induction as generalizing sorted with
    | nil => exact hsorted
    | cons a as ih =>
      obtain ⟨ha, has⟩ := List.pairwise_cons.mp has
      refine ih has _ (pairwise_insertBack hprecedes hsorted fun x hx => hcross x hx a (by simp)) ?_
      intro x hx b hb
      rcases List.mem_cons.mp ((insertBack_perm precedes a sorted).mem_iff.mp hx) with rfl | hx
      · exact ha b hb
      · exact hcross x hx b (List.mem_cons_of_mem _ hb)
  exact List.pairwise_reverse.mpr (hfold [] List.Pairwise.nil (by simp))

/-- The inserted element stops behind a neighbour that it does not precede, and what it passed does
not precede it. -/
theorem isChain_insertBack (asymm : ∀ a b, precedes a b = true → precedes b a = false) (a : α)
    {as : List α} (has : as.IsChain fun y x => precedes y x = false) :
    (insertBack precedes a as).IsChain fun y x => precedes y x = false := by
  induction as with
  | nil => exact List.isChain_singleton _
  | cons last before ih =>
    rw [insertBack]
    split
    · next hpass =>
      refine List.isChain_cons.mpr ⟨?_, ih has.tail⟩
      intro y hy
      cases before with
      | nil =>
        cases hy
        exact asymm a last hpass
      | cons next rest =>
        rw [insertBack] at hy
        split at hy
        · cases hy
          exact (List.isChain_cons_cons.mp has).1
        · cases hy
          exact asymm a last hpass
    · next hstop => exact List.isChain_cons_cons.mpr ⟨by simpa using hstop, has⟩

theorem isChain_insertionSort (asymm : ∀ a b, precedes a b = true → precedes b a = false)
    (as : List α) : (insertionSort precedes as).IsChain fun a b => precedes b a = false := by
  have hfold (sorted : List α) (hsorted : sorted.IsChain fun y x => precedes y x = false) :
      (as.foldl (fun sorted a => insertBack precedes a sorted) sorted).IsChain
        fun y x => precedes y x = false := by
    induction as generalizing sorted with
    | nil => exact hsorted
    | cons a as ih => exact ih _ (isChain_insertBack asymm a hsorted)
  exact List.isChain_reverse.mpr (hfold [] List.IsChain.nil)

/-- Insertion by neighbours arranges by every relation that holds at most one way. -/
theorem exists_arrangement_insertionSort
    (asymm : ∀ a b, precedes a b = true → precedes b a = false) (as : List α) :
    ∃ tagged, Arrangement precedes as tagged ∧ tagged.map Prod.fst = insertionSort precedes as := by
  have hmap := map_insertionSort precedes Prod.fst as.zipIdx
  rw [List.zipIdx_map_fst] at hmap
  refine ⟨insertionSort (fun x y => precedes x.1 y.1) as.zipIdx, ⟨?_, ?_, ?_⟩, hmap⟩
  · exact insertionSort_perm _ _
  · exact pairwise_insertionSort (fun _ _ h => .inr h) ((pairwise_snd_zipIdx as).imp .inl)
  · rw [hmap]
    exact isChain_insertionSort asymm as

end Insertion

section Merging
variable (cmp : α → α → Ordering) [Std.TransCmp cmp]

/-- By a total order the arrangements of a list are its stable sorts: the elements in order, and ties
in the order of their places. -/
theorem arrangement_iff_stable {input : List α} {tagged : List (α × Nat)} :
    Arrangement (fun a b => cmp a b == .lt) input tagged ↔
      tagged.Perm input.zipIdx ∧
        tagged.Pairwise fun x y => List.zipIdxLE (fun a b => (cmp a b).isLE) x y = true := by
  have hswap (a b : α) : cmp a b = (cmp b a).swap := Std.OrientedCmp.eq_swap
  constructor
  · intro h
    have : Trans (fun a b => (cmp a b).isLE = true) (fun a b => (cmp a b).isLE = true)
        fun a b => (cmp a b).isLE = true := ⟨Std.TransCmp.isLE_trans⟩
    have hsettled : (tagged.map Prod.fst).Pairwise fun a b => (cmp a b).isLE = true := by
      apply List.isChain_iff_pairwise.mp
      refine h.settled.imp ?_
      intro a b hab
      rw [hswap a b]
      cases hba : cmp b a with
      | lt => simp [hba] at hab
      | eq => rfl
      | gt => rfl
    refine ⟨h.perm, (h.kept.and (List.pairwise_map.mp hsettled)).imp ?_⟩
    rintro x y ⟨hkept, hle⟩
    rw [List.zipIdxLE, if_pos hle, hswap y.1 x.1]
    cases hxy : cmp x.1 y.1 with
    | lt => rfl
    | eq =>
      have hlt : x.2 < y.2 := by simpa [hxy] using hkept
      simp [Nat.le_of_lt hlt]
    | gt => simp [hxy] at hle
  · rintro ⟨hperm, hsorted⟩
    have hdistinct : tagged.Pairwise fun x y => x.2 ≠ y.2 :=
      (hperm.symm.pairwise_iff Ne.symm).mp ((pairwise_snd_zipIdx input).imp Nat.ne_of_lt)
    refine ⟨hperm, (hsorted.and hdistinct).imp ?_, ?_⟩
    · rintro x y ⟨hle, hne⟩
      rw [List.zipIdxLE, hswap y.1 x.1] at hle
      cases h : cmp x.1 y.1 with
      | lt => exact .inr rfl
      | eq =>
        have hle : x.2 ≤ y.2 := by simpa [h] using hle
        exact .inl (Nat.lt_of_le_of_ne hle hne)
      | gt => simp [h] at hle
    · refine (List.pairwise_map.mpr (hsorted.imp ?_)).isChain
      intro x y hle
      rw [List.zipIdxLE, hswap y.1 x.1] at hle
      rw [hswap y.1 x.1]
      cases h : cmp x.1 y.1 with
      | lt => rfl
      | eq => rfl
      | gt => simp [h] at hle

theorem Arrangement.unique {input : List α} {tagged other : List (α × Nat)}
    (h : Arrangement (fun a b => cmp a b == .lt) input tagged)
    (hother : Arrangement (fun a b => cmp a b == .lt) input other) : tagged = other := by
  obtain ⟨hperm, hsorted⟩ := (arrangement_iff_stable cmp).mp h
  obtain ⟨hpermother, hsortedother⟩ := (arrangement_iff_stable cmp).mp hother
  refine List.Perm.eq_of_pairwise ?_ hsorted hsortedother (hperm.trans hpermother.symm)
  intro x y hx hy hxy hyx
  have hplace : x.2 = y.2 := by
    simp only [List.zipIdxLE] at hxy hyx
    grind
  have hxinput := List.mem_zipIdx_iff_getElem?.mp (hperm.mem_iff.mp hx)
  have hyinput := List.mem_zipIdx_iff_getElem?.mp (hpermother.mem_iff.mp hy)
  rw [hplace, hyinput] at hxinput
  exact Prod.ext (Option.some.inj hxinput).symm hplace

theorem exists_arrangement_mergeSort (as : List α) :
    ∃ tagged, Arrangement (fun a b => cmp a b == .lt) as tagged ∧
      tagged.map Prod.fst = as.mergeSort fun a b => (cmp a b).isLE := by
  have htotal (a b : α) : ((cmp a b).isLE || (cmp b a).isLE) = true := by
    rw [(Std.OrientedCmp.eq_swap : cmp b a = (cmp a b).swap)]
    cases cmp a b <;> rfl
  refine ⟨as.zipIdx.mergeSort (List.zipIdxLE fun a b => (cmp a b).isLE),
    (arrangement_iff_stable cmp).mpr ⟨List.mergeSort_perm _ _, ?_⟩, List.mergeSort_zipIdx⟩
  exact List.pairwise_mergeSort (List.zipIdxLE_trans fun _ _ _ => Std.TransCmp.isLE_trans)
    (List.zipIdxLE_total htotal) as.zipIdx

end Merging

end ItemStore
