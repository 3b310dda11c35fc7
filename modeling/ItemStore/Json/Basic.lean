import ItemStore.Entries
import ItemStore.Number.Numeral

/-! # JSON values

The fields of an object keep their order. A number is an integer or a 64-bit float, and the two
stay apart: `1` and `1.0` are different values.
-/
namespace ItemStore
open Number (Binary64)

inductive JsonNumber
  | int (value : Int)
  | float (value : Binary64)
  deriving DecidableEq, Repr

inductive Json
  | null
  | bool (value : Bool)
  | number (value : JsonNumber)
  | string (value : String)
  | array (items : List Json)
  | object (fields : List (String × Json))
  deriving Repr

namespace JsonNumber

/-- The value, if it is an integer of a signed 64-bit word. -/
def int64? : JsonNumber → Option Int
  | .int i => if Number.fitsInt64 i then some i else none
  | .float _ => none

def toFloat : JsonNumber → Binary64
  | .int i => .ofInt i
  | .float x => x

end JsonNumber

namespace Json

instance : Inhabited Json := ⟨.null⟩

def ofInt (i : Int) : Json := .number (.int i)

def ofNat (n : Nat) : Json := .number (.int n)

/-- A float as a JSON value; infinities and no number become null. -/
def ofFloat (x : Binary64) : Json := if x.isFinite then .number (.float x) else .null

def isNull : Json → Bool
  | .null => true
  | _ => false

/-- The field of an object; other values have none. -/
def field? (json : Json) (name : String) : Option Json :=
  match json with
  | .object fields => Entries.find? fields name
  | _ => none

end Json

end ItemStore
