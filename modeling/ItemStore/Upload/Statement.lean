import ItemStore.Upload.Coercion
import ItemStore.Upload.Template

/-! # Write statements

Each item of an upload becomes one statement with parameters. Names are quoted by doubling the
quote inside them, and the preview shows the same statement with literals in place of parameters.
-/
namespace ItemStore.Upload

/-- The fields of one uploaded item, in the order in which the caller wrote them. -/
abbrev Item := Entries Json

structure BuiltStatement where
  statement : String
  parameters : List Value
  preview : String
  deriving Repr

def quoteTable (table : String) : List Char := Text.enclosed '"' table

def quoteAttribute (name : String) : List Char := Text.enclosed '\'' name

/-- The names of an item in ascending order of their code points. -/
def sortedNames (item : Item) : List String := item.names.mergeSort fun a b => decide (a ≤ b)

/-- The value of a field, null if it is absent. -/
def fieldValue (item : Item) (name : String) : Json := (item.find? name).getD .null

def fieldParameters (names : List String) (item : Item) : List Value :=
  names.map fun name => Value.marshal (fieldValue item name)

/-- The parts with a separator between them. -/
def join (separator : List Char) : List (List Char) → List Char
  | [] => []
  | [part] => part
  | part :: rest => part ++ separator ++ join separator rest

def comma : List Char := [',', ' ']

def conjunction : List Char := " AND ".toList

/-- The name in quotes, an equals sign, and what stands for the value. -/
def equations (separator : List Char) (shown : String → List Char) (names : List String) : List Char :=
  join separator (names.map fun name => quoteAttribute name ++ '=' :: shown name)

def placeholder (_ : String) : List Char := ['?']

def shownValue (item : Item) (name : String) : List Char := literal (fieldValue item name)

/-- A statement and its preview, which differ in what is shown for a value. -/
def statementOf (text : (String → List Char) → List Char) (names : List String) (item : Item) :
    BuiltStatement where
  statement := String.ofList (text placeholder)
  parameters := fieldParameters names item
  preview := String.ofList (text (shownValue item))

def insertText (table : String) (names : List String) (shown : String → List Char) : List Char :=
  "INSERT INTO ".toList ++ quoteTable table ++ " VALUE \x7b".toList ++
    join comma (names.map fun name => quoteAttribute name ++ ':' :: ' ' :: shown name) ++ ['\x7d']

def updateText (table : String) (assigned keys : List String) (shown : String → List Char) :
    List Char :=
  "UPDATE ".toList ++ quoteTable table ++ " SET ".toList ++ equations comma shown assigned ++
    " WHERE ".toList ++ equations conjunction shown keys

def deleteText (table : String) (names : List String) (shown : String → List Char) : List Char :=
  "DELETE FROM ".toList ++ quoteTable table ++ " WHERE ".toList ++
    equations conjunction shown names

def selectText (table : String) (names : List String) (shown : String → List Char) : List Char :=
  "SELECT * FROM ".toList ++ quoteTable table ++
    if names.isEmpty then [] else " WHERE ".toList ++ equations conjunction shown names

def emptyPayload : Failure := .validation "payload is empty"

/-- A schema field that is required or named as a primary key identifies the item. -/
def isKeyField (p : Preset) (name : String) : Bool :=
  match p.field? name with
  | some f => f.required || name == "PK" || name == "SK"
  | none => false

def buildInsert (p : Preset) (item : Item) : Except Failure BuiltStatement :=
  if item.isEmpty then .error emptyPayload
  else
    let names := sortedNames item
    .ok (statementOf (insertText p.table names) names item)

def buildUpdate (p : Preset) (item : Item) : Except Failure BuiltStatement :=
  if item.isEmpty then .error emptyPayload
  else
    let names := sortedNames item
    let keys := names.filter (isKeyField p)
    let assigned := names.filter fun name => !isKeyField p name
    if keys.isEmpty then .error (.validation "no key fields found for UPDATE (PK/SK required)")
    else if assigned.isEmpty then .error (.validation "no fields to update")
    else .ok (statementOf (updateText p.table assigned keys) (assigned ++ keys) item)

def buildDelete (p : Preset) (item : Item) : Except Failure BuiltStatement :=
  if item.isEmpty then .error emptyPayload
  else
    let names := sortedNames item
    .ok (statementOf (deleteText p.table names) names item)

def buildSelect (p : Preset) (item : Item) : Except Failure BuiltStatement :=
  let names := sortedNames item
  .ok (statementOf (selectText p.table names) names item)

def missingField (name : String) : Failure :=
  .validation ("required field " ++ Text.quoted name ++ " missing")

/-- The parameter of a schema field: null if the item does not have the field. -/
def templateParameter (item : Item) (f : Field) : Except Failure Value :=
  match item.find? f.name with
  | none => if f.required then .error (missingField f.name) else .ok .null
  | some json =>
    match coerce f json with
    | .ok value => .ok value
    | .error e => .error (e.toFailure.inContext ("field " ++ Text.quoted f.name))

def templateParameters (item : Item) : List Field → Except Failure (List Value)
  | [] => .ok []
  | f :: rest => do
    let value ← templateParameter item f
    let values ← templateParameters item rest
    .ok (value :: values)

/-- The template as it stands, with the schema fields as parameters in the order of the schema. -/
def buildTemplated (p : Preset) (template : String) (item : Item) : Except Failure BuiltStatement :=
  if p.schema.isEmpty then
    .error (.validation "schema definition is required to build statement parameters")
  else do
    let parameters ← templateParameters item p.schema
    let expected := (placeholders template).length
    if 0 < expected ∧ expected ≠ parameters.length then
      .error (.validation ("partiqlTemplate expects " ++ toString expected ++
        " parameters but schema supplied " ++ toString parameters.length))
    else .ok ⟨template, parameters, renderTemplate template parameters⟩

/-- The statement of one item. A template replaces the generated text except for inserts. -/
def buildStatement (p : Preset) (item : Item) : Except Failure BuiltStatement :=
  match p.operation, p.template? with
  | .insert, _ => buildInsert p item
  | .update, none => buildUpdate p item
  | .delete, none => buildDelete p item
  | .select, none => buildSelect p item
  | .unsupported w, _ => .error (Operation.refusal w)
  | _, some template => buildTemplated p template item

end ItemStore.Upload
