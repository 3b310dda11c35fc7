import ItemStore.Json.Written
import ItemStore.Proofs.Entries

/-! # Values written without loss

A value whose objects have each field once is written so that it is taken as itself wherever as
many levels are allowed as it is deep, and nowhere else.
-/
namespace ItemStore.Json

mutual

def depth : Json → Nat
  | .array items => itemsDepth items + 1
  | .object fields => fieldsDepth fields + 1
  | _ => 0

def itemsDepth : List Json → Nat
  | [] => 0
  | v :: rest => max (depth v) (itemsDepth rest)

def fieldsDepth : List (String × Json) → Nat
  | [] => 0
  | (_, v) :: rest => max (depth v) (fieldsDepth rest)

end

mutual

/-- Every object has each of its fields once. -/
def Distinct : Json → Prop
  | .array items => DistinctItems items
  | .object fields => (Entries.names fields).Nodup ∧ DistinctFields fields
  | _ => True

def DistinctItems : List Json → Prop
  | [] => True
  | v :: rest => Distinct v ∧ DistinctItems rest

def DistinctFields : List (String × Json) → Prop
  | [] => True
  | (_, v) :: rest => Distinct v ∧ DistinctFields rest

end

/-- Two parts that are each taken if they are not too deep: together they are taken if the deeper
one is not. -/
theorem bind_ite_max {α β γ : Type} (m n levels : Nat) (a : α) (b : β) (f : α → β → γ) :
    ((if m ≤ levels then some a else none).bind fun a =>
      (if n ≤ levels then some b else none).bind fun b => some (f a b)) =
      if max m n ≤ levels then some (f a b) else none := by
  by_cases hm : m ≤ levels
  · by_cases hn : n ≤ levels
    · have hmax : max m n ≤ levels := by omega
      rw [if_pos hm, if_pos hn, if_pos hmax]
      rfl
    · have hmax : ¬ max m n ≤ levels := by omega
      rw [if_pos hm, if_neg hn, if_neg hmax]
      rfl
  · have hmax : ¬ max m n ≤ levels := by omega
    rw [if_neg hm, if_neg hmax]
    rfl

mutual

theorem value?_toWritten {json : Json} (distinct : json.Distinct) (levels : Nat) :
    json.toWritten.value? levels = if json.depth ≤ levels then some json else none := by
  match json with
  | .null | .bool _ | .number _ | .string _ => simp [toWritten, Written.value?, depth]
  | .array items =>
    cases levels with
    | zero => simp [toWritten, Written.value?, depth]
    | succ levels =>
      rw [Distinct] at distinct
      by_cases h : itemsDepth items ≤ levels
      · simp [toWritten, Written.value?, depth, values?_toWrittenItems distinct, h]
      · simp [toWritten, Written.value?, depth, values?_toWrittenItems distinct, h]
  | .object fields =>
    cases levels with
    | zero => simp [toWritten, Written.value?, depth]
    | succ levels =>
      rw [Distinct] at distinct
      have hpairs : Entries.ofPairs fields = fields := Entries.ofPairs_of_nodup distinct.1
      by_cases h : fieldsDepth fields ≤ levels
      · simp [toWritten, Written.value?, depth, fields?_toWrittenMembers distinct.2, h, hpairs]
      · simp [toWritten, Written.value?, depth, fields?_toWrittenMembers distinct.2, h]

theorem values?_toWrittenItems {items : List Json} (distinct : DistinctItems items) (levels : Nat) :
    Written.values? levels (toWrittenItems items) =
      if itemsDepth items ≤ levels then some items else none := by
  match items with
  | [] => simp [toWrittenItems, Written.values?, itemsDepth]
  | v :: rest =>
    rw [DistinctItems] at distinct
    rw [toWrittenItems, Written.values?, value?_toWritten distinct.1,
      values?_toWrittenItems distinct.2, itemsDepth]
    exact bind_ite_max _ _ _ _ _ _

theorem fields?_toWrittenMembers {fields : List (String × Json)} (distinct : DistinctFields fields)
    (levels : Nat) :
    Written.fields? levels (toWrittenMembers fields) =
      if fieldsDepth fields ≤ levels then some fields else none := by
  match fields with
  | [] => simp [toWrittenMembers, Written.fields?, fieldsDepth]
  | (name, v) :: rest =>
    rw [DistinctFields] at distinct
    rw [toWrittenMembers, Written.fields?, value?_toWritten distinct.1,
      fields?_toWrittenMembers distinct.2, fieldsDepth]
    exact bind_ite_max _ _ _ _ _ _

end

end ItemStore.Json
