import ItemStore.Query.NativeOrder

/-! # Sorting rows

Rows are sorted by one field, those without a value last in either direction. Where all values are
of one kind that has an order, this is a stable sort. Values of different kinds have no order among
each other, and then each row moves toward the front only past neighbours that it precedes.
-/
namespace ItemStore
open Number (Binary64)

/-- Why rows are sorted by a field. -/
inductive SortReason
  /-- The caller asks for it. -/
  | requested
  /-- The store could not do it. -/
  | fallback
  /-- The field is one of those that usually hold a time. -/
  | timeField
  deriving DecidableEq, Repr

structure SortOrder where
  field : String
  direction : Direction
  reason : SortReason
  deriving DecidableEq, Repr

namespace SortOrder

/-- Fields that usually hold a time, in the order in which they are tried. -/
def timeFields : List String := ["timestamp", "created_at", "createdAt", "date", "time"]

/-- The sort to apply to the rows that a plan brings in, if any. -/
def resolve (query : Query) (plan : NativeOrder) (first : Option Row) : Option SortOrder :=
  match query.explicitSort with
  | some field => some ⟨field, query.direction, .requested⟩
  | none =>
    if plan.applied then none
    else
      let direction := Direction.ofForward (query.scanForward.getD true)
      match plan.fallback.filter (· ≠ "") with
      | some field => some ⟨field, direction, .fallback⟩
      | none =>
        if query.scanForward.isNone then none
        else do
          let row ← first
          let field ← timeFields.find? (Entries.has row ·)
          some ⟨field, direction, .timeField⟩

end SortOrder

/-- A kind of values that has an order. -/
inductive OrderedKind
  | text
  | number
  | bool
  deriving DecidableEq, Repr

namespace Value

/-- The number that a number text denotes, blanks around it aside. -/
def float? (text : String) : Option Binary64 := Number.readFloat? (Text.trim text.toList)

def orderedKind? : Value → Option OrderedKind
  | .string _ => some .text
  | .number n => if (float? n).any (!·.isNaN) then some .number else none
  | .bool _ => some .bool
  | _ => none

def compareTexts (a b : String) : Ordering := compare a b

/-- Numbers are compared as texts where one of them denotes no number. -/
def compareNumbers (a b : String) : Ordering :=
  match float? a, float? b with
  | some x, some y => (x.compare? y).getD .eq
  | _, _ => compareTexts a b

/-- The order of two values of one kind; other pairs have none. -/
def compare? : Value → Value → Option Ordering
  | .string a, .string b => some (compareTexts a b)
  | .number a, .number b => some (compareNumbers a b)
  | .bool a, .bool b => some (compare a b)
  | _, _ => none

end Value

section Insertion
variable {α : Type} (precedes : α → α → Bool)

/-- Puts an element behind those of a reversed list, and then past each that it precedes. -/
def insertBack (a : α) : List α → List α
  | [] => [a]
  | last :: before =>
    if precedes a last then last :: insertBack a before else a :: last :: before

/-- The elements, each in its turn put behind the others and moved past neighbours. -/
def insertionSort (as : List α) : List α :=
  (as.foldl (fun sorted a => insertBack precedes a sorted) []).reverse

theorem insertBack_perm (a : α) (as : List α) : (insertBack precedes a as).Perm (a :: as) := by
  induction as with
  | nil => exact .refl _
  | cons last before ih =>
    unfold insertBack
    split
    · exact (ih.cons last).trans (.swap a last before)
    · exact .refl _

theorem foldl_insertBack_perm (as sorted : List α) :
    (as.foldl (fun sorted a => insertBack precedes a sorted) sorted).Perm (as ++ sorted) := by
  induction as generalizing sorted with
  | nil => exact .refl _
  | cons a as ih =>
    exact (ih _).trans (((insertBack_perm precedes a sorted).append_left as).trans List.perm_middle)

theorem insertionSort_perm (as : List α) : (insertionSort precedes as).Perm as :=
  (List.reverse_perm _).trans (by simpa using foldl_insertBack_perm precedes as [])

end Insertion

namespace Row

/-- The value of a field, if it is there and not null. -/
def sortValue? (row : Row) (field : String) : Option Value :=
  (Entries.find? row field).filter (!·.isNull)

/-- The kind of all values of a field, if they have one in common. -/
def commonKind? (rows : List Row) (field : String) : Option OrderedKind :=
  match rows.filterMap (sortValue? · field) with
  | [] => none
  | v :: rest =>
    v.orderedKind?.filter fun kind => rest.all fun w => w.orderedKind? == some kind

def directed (direction : Direction) (o : Ordering) : Ordering :=
  match direction with
  | .ascending => o
  | .descending => o.swap

/-- Row `a` may stand before row `b` where the values have a common kind. -/
def precedesOrTies (field : String) (direction : Direction) (a b : Row) : Bool :=
  match sortValue? a field, sortValue? b field with
  | _, none => true
  | none, some _ => false
  | some x, some y => directed direction ((x.compare? y).getD .eq) != .gt

/-- Row `a` has to stand before row `b`. -/
def precedes (field : String) (direction : Direction) (a b : Row) : Bool :=
  match sortValue? a field, sortValue? b field with
  | none, _ => false
  | some _, none => true
  | some x, some y => (x.compare? y).any fun o => directed direction o == .lt

/-- The rows in the order of a field. -/
def sort (rows : List Row) (field : String) (direction : Direction) : List Row :=
  if field = "" then rows
  else if (commonKind? rows field).isSome then rows.mergeSort (precedesOrTies field direction)
  else insertionSort (precedes field direction) rows

/-- Sorting neither drops nor adds a row. -/
theorem sort_perm (rows : List Row) (field : String) (direction : Direction) :
    (sort rows field direction).Perm rows := by
  unfold sort
  split
  · exact .refl _
  · split
    · exact List.mergeSort_perm _ _
    · exact insertionSort_perm _ rows

end Row

end ItemStore
