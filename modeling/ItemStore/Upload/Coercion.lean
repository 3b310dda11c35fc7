import ItemStore.Number.Trimmed
import ItemStore.Upload.Preset
import ItemStore.Value.Generic

/-! # Coercing field values

A schema field says what kind of store value a caller's JSON value is turned into. Null always
becomes null.
-/
namespace ItemStore.Upload

/-- Why a value cannot be coerced. -/
inductive CoercionError
  | unknownType (type : String)
  | emptyNumber
  | invalidNumber (text : String)
  | notANumber (value : String)
  | invalidBoolean (text : String)
  | notABoolean (value : String)
  | invalidJson (reason : String)
  deriving DecidableEq, Repr

namespace CoercionError

def text : CoercionError → String
  | .unknownType t => "unsupported field type " ++ Text.quoted t
  | .emptyNumber => "number field cannot be empty string"
  | .invalidNumber t => "invalid number string: " ++ Text.quoted t
  | .notANumber v => "value " ++ v ++ " cannot be converted to number"
  | .invalidBoolean t => "invalid boolean string " ++ Text.quoted t
  | .notABoolean v => "value " ++ v ++ " cannot be converted to bool"
  | .invalidJson r => "invalid json: " ++ r

def toFailure (e : CoercionError) : Failure := .validation e.text

end CoercionError

/-- What a field's values are coerced to. -/
inductive FieldKind
  | string
  | number
  | boolean
  | json
  /-- The natural value of whatever JSON comes. -/
  | auto
  deriving DecidableEq, Repr

namespace FieldKind

/-- The kind that a store type asks for. -/
def ofStoreType (type : String) : FieldKind :=
  match String.ofList (Text.upperText (Text.trim type.toList)) with
  | "N" | "NUMBER" => .number
  | "BOOL" | "BOOLEAN" => .boolean
  | "M" | "MAP" | "L" | "LIST" | "SS" | "NS" | "BS" => .json
  | "B" | "BINARY" | "NULL" | "S" | "STRING" => .string
  | _ => .auto

/-- The kind of a field: its declared type decides, and the store type where that is auto. -/
def resolve (f : Field) : Except CoercionError FieldKind :=
  match String.ofList (Text.lowerText (Text.trim f.type.toList)) with
  | "string" => .ok .string
  | "number" | "numeric" => .ok .number
  | "boolean" | "bool" => .ok .boolean
  | "json" | "map" | "object" => .ok .json
  | "" | "auto" | "any" => .ok (ofStoreType f.storeType)
  | _ => .error (.unknownType f.type)

end FieldKind

/-- The text that a string field stores. -/
def coerceText : Json → String
  | .string s => s
  | .number n => String.ofList n.trimmedText
  | json => json.render

/-- The number text that a number field stores. The text of a caller's number string is kept. -/
def coerceNumber : Json → Except CoercionError String
  | .number n => .ok (String.ofList n.trimmedText)
  | .string s =>
    if Text.trimmed s = "" then .error .emptyNumber
    else match Number.readFloat? s.toList with
      | some x => if x.isFinite then .ok s else .error (.invalidNumber s)
      | none => .error (.invalidNumber s)
  | json => .error (.notANumber json.render)

def coerceBoolean : Json → Except CoercionError Bool
  | .bool b => .ok b
  | .string s =>
    match String.ofList (Text.lowerText (Text.trim s.toList)) with
    | "true" | "1" | "yes" => .ok true
    | "false" | "0" | "no" => .ok false
    | _ => .error (.invalidBoolean s)
  | json => .error (.notABoolean json.render)

/-- A JSON field takes any value, and a string is read as a JSON text. What a reader finds wrong with
any other string is not told, and "no JSON value" stands for it. -/
def coerceJson : Json → Except CoercionError Value
  | .string s =>
    if Text.trimmed s = "" then .ok .null
    else match Json.parse? s with
      | some json => .ok (Value.marshal json)
      | none => .error (.invalidJson "no JSON value")
  | json => .ok (Value.marshal json)

/-- The store value of a caller's value under a field. -/
def coerce (f : Field) (json : Json) : Except CoercionError Value :=
  if json.isNull then .ok .null
  else do
    match ← FieldKind.resolve f with
    | .string => .ok (.string (coerceText json))
    | .number => (coerceNumber json).map .number
    | .boolean => (coerceBoolean json).map .bool
    | .json => coerceJson json
    | .auto => .ok (Value.marshal json)

end ItemStore.Upload
