import ItemStore.Value.Basic
import ItemStore.Base64
import ItemStore.Error
import ItemStore.Text.Quoted

/-! # Values as plain JSON

A value is shown to the host as plain JSON: its kind is dropped, numbers become JSON numbers and
bytes become base64 text. In the other direction every JSON value has a natural store value.
-/
namespace ItemStore.Value
open Number (readInt64? readFloat?)

/-- The JSON number that a number text denotes: an integer where 64 bits hold it, else a float. -/
def numberToJson (text : String) : Except Failure Json :=
  match readInt64? text.toList with
  | some i => .ok (.ofInt i)
  | none =>
    match readFloat? text.toList with
    | none => .error (.decode ("invalid number " ++ Text.quoted text))
    | some x =>
      if x.isFinite then .ok (.number (.float x))
      else .error (.decode ("number " ++ Text.quoted text ++ " is not representable in JSON"))

def numbersToJson : List String → Except Failure (List Json)
  | [] => .ok []
  | text :: rest => do
    let v ← numberToJson text
    let vs ← numbersToJson rest
    .ok (v :: vs)

mutual

/-- The plain JSON of a value. Only a number can fail, and the first one in order is reported. -/
def toJson : Value → Except Failure Json
  | .string s => .ok (.string s)
  | .number n => numberToJson n
  | .binary bytes => .ok (.string (Base64.encodeText bytes))
  | .bool b => .ok (.bool b)
  | .null => .ok .null
  | .map entries => (toJsonEntries entries).map .object
  | .list items => (toJsonItems items).map .array
  | .stringSet items => .ok (.array (items.map .string))
  | .numberSet items => (numbersToJson items).map .array
  | .binarySet items => .ok (.array (items.map fun bytes => .string (Base64.encodeText bytes)))

def toJsonItems : List Value → Except Failure (List Json)
  | [] => .ok []
  | v :: rest => do
    let j ← toJson v
    let js ← toJsonItems rest
    .ok (j :: js)

def toJsonEntries : List (String × Value) → Except Failure (List (String × Json))
  | [] => .ok []
  | (name, v) :: rest => do
    let j ← toJson v
    let js ← toJsonEntries rest
    .ok ((name, j) :: js)

end

/-- A row as a plain JSON object. -/
def rowToJson (row : Row) : Except Failure Json := (toJsonEntries row).map .object

mutual

/-- The natural value of a JSON value, `numeral` giving the text of its numbers. -/
def ofJsonWith (numeral : JsonNumber → List Char) : Json → Value
  | .null => .null
  | .bool b => .bool b
  | .number n => .number (String.ofList (numeral n))
  | .string s => .string s
  | .array items => .list (ofJsonItemsWith numeral items)
  | .object fields => .map (ofJsonFieldsWith numeral fields)

def ofJsonItemsWith (numeral : JsonNumber → List Char) : List Json → List Value
  | [] => []
  | j :: rest => ofJsonWith numeral j :: ofJsonItemsWith numeral rest

def ofJsonFieldsWith (numeral : JsonNumber → List Char) :
    List (String × Json) → List (String × Value)
  | [] => []
  | (name, j) :: rest => (name, ofJsonWith numeral j) :: ofJsonFieldsWith numeral rest

end

/-- The natural value, with numbers as the JSON text writes them. -/
def ofJson (json : Json) : Value := ofJsonWith JsonNumber.text json

/-- The text of a number without an exponent. -/
def plainNumeral : JsonNumber → List Char
  | .int i => Number.intText i
  | .float x => x.text .plain

/-- The natural value, with numbers written without an exponent. -/
def marshal (json : Json) : Value := ofJsonWith plainNumeral json

end ItemStore.Value
