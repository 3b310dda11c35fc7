import ItemStore.Entries

/-! # Attribute values

A value as the store keeps it carries its kind. Numbers stay in the text that the store gave until
something has to know what they denote.
-/
namespace ItemStore

inductive Value
  | string (text : String)
  | number (text : String)
  | binary (bytes : List UInt8)
  | bool (value : Bool)
  | null
  | map (entries : List (String × Value))
  | list (items : List Value)
  | stringSet (items : List String)
  | numberSet (items : List String)
  | binarySet (items : List (List UInt8))
  deriving Repr

inductive ValueKind
  | string
  | number
  | binary
  | bool
  | null
  | map
  | list
  | stringSet
  | numberSet
  | binarySet
  deriving DecidableEq, Repr

/-- One item of the store: its attributes in the order in which the store gave them. -/
abbrev Row := Entries Value

namespace ValueKind

def all : List ValueKind :=
  [.string, .number, .binary, .bool, .null, .map, .list, .stringSet, .numberSet, .binarySet]

/-- The tag of the kind on the wire. -/
def tag : ValueKind → String
  | .string => "S"
  | .number => "N"
  | .binary => "B"
  | .bool => "BOOL"
  | .null => "NULL"
  | .map => "M"
  | .list => "L"
  | .stringSet => "SS"
  | .numberSet => "NS"
  | .binarySet => "BS"

def words : List (String × ValueKind) := all.map fun kind => (kind.tag, kind)

/-- The text that stands in a cell for a value of the kind that cannot be shown. -/
def placeholder (kind : ValueKind) : String := "[" ++ kind.tag ++ "]"

theorem tag_injective {a b : ValueKind} (h : a.tag = b.tag) : a = b := by
  cases a <;> cases b <;> first | rfl | (simp [tag] at h)

end ValueKind

namespace Value

instance : Inhabited Value := ⟨.null⟩

def kind : Value → ValueKind
  | .string _ => .string
  | .number _ => .number
  | .binary _ => .binary
  | .bool _ => .bool
  | .null => .null
  | .map _ => .map
  | .list _ => .list
  | .stringSet _ => .stringSet
  | .numberSet _ => .numberSet
  | .binarySet _ => .binarySet

def isNull : Value → Bool
  | .null => true
  | _ => false

/-- The text of a string value. -/
def text? : Value → Option String
  | .string s => some s
  | _ => none

theorem isNull_iff {v : Value} : v.isNull = true ↔ v = .null := by
  cases v <;> simp [isNull]

end Value

end ItemStore
