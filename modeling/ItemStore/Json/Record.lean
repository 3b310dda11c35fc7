import ItemStore.Json.Reader

/-! # Taking JSON apart by declared fields

A structure is written as an object of its fields, or as an array of them in their declared order.
Fields that are not declared are skipped, a declared one may be written only once, and a value is
taken only if it has the declared type. `levels` is how deep the rest may still be nested.
-/
namespace ItemStore.Json
open Number (Binary64)

/-- Reads a value of type `α` that is nested no deeper than `levels`. -/
abbrev Decoder (α : Type) := (levels : Nat) → Written → Option α

namespace Decoder
variable {α β : Type}

def map (f : α → β) (read : Decoder α) : Decoder β := fun levels w => (read levels w).map f

def value : Decoder Json := fun levels w => w.value? levels

def text : Decoder String := fun _ w =>
  match w with
  | .string s => s
  | _ => none

def flag : Decoder Bool := fun _ w =>
  match w with
  | .bool b => some b
  | _ => none

/-- An integer between two bounds; a float is refused even where it is whole. -/
def intBetween (low high : Int) : Decoder Int := fun _ w =>
  match w with
  | .number (some (.int i)) => if low ≤ i ∧ i ≤ high then some i else none
  | _ => none

def int64 : Decoder Int := intBetween Number.int64Min Number.int64Max

def nat64 : Decoder Nat := map Int.toNat (intBetween 0 Number.nat64Max)

def nat32 : Decoder Nat := map Int.toNat (intBetween 0 4294967295)

def float : Decoder Binary64 := fun _ w =>
  match w with
  | .number (some n) => some n.toFloat
  | _ => none

/-- Null stands for no value. -/
def optional (read : Decoder α) : Decoder (Option α) := fun levels w =>
  match w with
  | .null => some none
  | w => (read levels w).map some

def list (read : Decoder α) : Decoder (List α) := fun levels w =>
  match w, levels with
  | .array items, levels + 1 | .openArray items, levels + 1 => items.mapM (read levels)
  | _, _ => none

/-- One of a few words, also written as an object with the word as its only member and null as
value. -/
def word (words : List (String × α)) : Decoder α := fun levels w =>
  match w, levels with
  | .string (some s), _ => Entries.find? words s
  | .object [(some s, .null)], _ + 1 => Entries.find? words s
  | _, _ => none

end Decoder

/-- The declared fields of a structure that are present. -/
structure Record where
  fields : List (String × Written)
  /-- The structure is written as an array. -/
  listed : Bool
  levels : Nat

namespace Record
variable {α : Type}

/-- The members with a declared name, if no such name is written twice and every name is a text. -/
def declared? (names : List String) : List (Option String × Written) → Option (List (String × Written))
  | [] => some []
  | (none, _) :: _ => none
  | (some name, w) :: rest => do
    let fields ← declared? names rest
    if names.contains name then
      if fields.any (·.1 == name) then none else some ((name, w) :: fields)
    else some fields

/-- The fields of a structure with the declared names. -/
def ofWritten? (names : List String) : Decoder Record := fun levels w =>
  match w, levels with
  | .object members, levels + 1 => (declared? names members).map fun fields => ⟨fields, false, levels⟩
  | .array items, levels + 1 =>
    if items.length ≤ names.length then some ⟨names.zip items, true, levels⟩ else none
  | .openArray items, levels + 1 => some ⟨names.zip items, true, levels⟩
  | _, _ => none

def find? (record : Record) (name : String) : Option Written := Entries.find? record.fields name

/-- A field that has to be there. -/
def required (record : Record) (name : String) (read : Decoder α) : Option α :=
  (record.find? name).bind (read record.levels)

/-- A field that may be left out. -/
def withDefault (record : Record) (name : String) (default : α) (read : Decoder α) : Option α :=
  match record.find? name with
  | some w => read record.levels w
  | none => some default

/-- A field whose absence is the same as null, except in the array form, where it has to be there. -/
def nullable (record : Record) (name : String) (read : Decoder α) : Option (Option α) :=
  if record.listed then record.required name (.optional read)
  else record.withDefault name none (.optional read)

end Record

/-- Reads a whole text. -/
def Decoder.run {α : Type} (read : Decoder α) (text : List Text.Symbol) : Option α :=
  (Written.read? text).bind (read maxLevels)

/-- Reads a value that was read before. It is not measured again. -/
def Decoder.ofJson {α : Type} (read : Decoder α) (json : Json) : Option α :=
  read maxLevels json.toWritten

end ItemStore.Json
