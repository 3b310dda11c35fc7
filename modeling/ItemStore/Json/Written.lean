import ItemStore.Json.Basic

/-! # JSON as it is written

A text may hold more than a value keeps: a member that is written twice, a string that denotes no
text because an escape names half a character, a number beyond all floats. A reader that skips a
part does not care, so these are told apart only when a part is taken as a value.
-/
namespace ItemStore.Json

inductive Written
  | null
  | bool (value : Bool)
  | number (value : Option JsonNumber)
  | string (value : Option String)
  | array (items : List Written)
  /-- An array of which a reader may leave the last items unread. -/
  | openArray (items : List Written)
  | object (members : List (Option String × Written))
  deriving Repr

namespace Written

instance : Inhabited Written := ⟨.null⟩

mutual

/-- The value that is written, if every string and number in it denotes one and it is nested no
deeper than `levels`. Of a member written twice the first place and the last value count. -/
def value? (levels : Nat) : Written → Option Json
  | .null => some .null
  | .bool b => some (.bool b)
  | .number n => n.map .number
  | .string s => s.map .string
  | .array items =>
    match levels with
    | 0 => none
    | levels + 1 => (values? levels items).map .array
  | .openArray items =>
    match levels with
    | 0 => none
    | levels + 1 => (values? levels items).map .array
  | .object members =>
    match levels with
    | 0 => none
    | levels + 1 => (fields? levels members).map fun fields => .object (Entries.ofPairs fields)

def values? (levels : Nat) : List Written → Option (List Json)
  | [] => some []
  | w :: rest => do
    let v ← value? levels w
    let vs ← values? levels rest
    some (v :: vs)

def fields? (levels : Nat) : List (Option String × Written) → Option (List (String × Json))
  | [] => some []
  | (name, w) :: rest => do
    let name ← name
    let v ← value? levels w
    let vs ← fields? levels rest
    some ((name, v) :: vs)

end

end Written

mutual

/-- The one way to write a value in which nothing is lost. -/
def toWritten : Json → Written
  | .null => .null
  | .bool b => .bool b
  | .number n => .number (some n)
  | .string s => .string (some s)
  | .array items => .array (toWrittenItems items)
  | .object fields => .object (toWrittenMembers fields)

def toWrittenItems : List Json → List Written
  | [] => []
  | v :: rest => toWritten v :: toWrittenItems rest

def toWrittenMembers : List (String × Json) → List (Option String × Written)
  | [] => []
  | (name, v) :: rest => (some name, toWritten v) :: toWrittenMembers rest

end

/-- How deep a text may be nested to be taken as a value. -/
def maxLevels : Nat := 127

end ItemStore.Json
