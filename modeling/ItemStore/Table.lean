import ItemStore.Error
import ItemStore.Json.Record
import ItemStore.Text.Letter

/-! # Tables and their keys

A table and each of its indexes has a key schema that names the attribute which selects a partition
and the attribute which orders the items in it.
-/
namespace ItemStore
open Json (Decoder Record)

inductive KeyRole
  | partition
  | sort
  deriving DecidableEq, Repr

structure KeyElement where
  name : String
  role : KeyRole
  deriving DecidableEq, Repr

structure AttributeDefinition where
  name : String
  type : String
  deriving DecidableEq, Repr

structure Index where
  name : String
  keys : List KeyElement := []
  deriving DecidableEq, Repr

structure Table where
  name : String
  keys : List KeyElement := []
  attributes : List AttributeDefinition := []
  globalIndexes : List Index := []
  localIndexes : List Index := []
  deriving DecidableEq, Repr

/-- The attributes that select a partition and order it. -/
structure KeySchema where
  partitionKey : Option String := none
  sortKey : Option String := none
  deriving DecidableEq, Repr

namespace KeySchema

/-- Takes one element in. A later element of the same role replaces an earlier one. -/
def add (schema : KeySchema) (element : KeyElement) : KeySchema :=
  match element.role with
  | .partition => { schema with partitionKey := some element.name }
  | .sort => { schema with sortKey := some element.name }

def ofElements (elements : List KeyElement) : KeySchema := elements.foldl add {}

end KeySchema

namespace Table

/-- The first index of that name, ASCII case aside, global indexes before local ones. -/
def index? (table : Table) (name : String) : Option Index :=
  (table.globalIndexes ++ table.localIndexes).find? fun index => Text.equalIgnoringCase index.name name

/-- The key schema of the table, or of one of its indexes if one is named. -/
def keySchema (table : Table) (index : Option String) : Except Failure KeySchema :=
  match index.filter (· ≠ "") with
  | none => .ok (.ofElements table.keys)
  | some name =>
    match table.index? name with
    | some found => .ok (.ofElements found.keys)
    | none => .error (.notFound ("index " ++ name ++ " not found on table " ++ table.name))

end Table

/-! ### JSON form -/

def KeyRole.name : KeyRole → String
  | .partition => "HASH"
  | .sort => "RANGE"

namespace KeyElement

def toJson (e : KeyElement) : Json :=
  .object [("AttributeName", .string e.name), ("KeyType", .string e.role.name)]

def read : Decoder KeyElement := fun levels w => do
  let r ← Record.ofWritten? ["AttributeName", "KeyType"] levels w
  let name ← r.required "AttributeName" .text
  let role ← r.required "KeyType" (.word [("HASH", .partition), ("RANGE", .sort)])
  some { name, role }

end KeyElement

namespace AttributeDefinition

def toJson (d : AttributeDefinition) : Json :=
  .object [("AttributeName", .string d.name), ("AttributeType", .string d.type)]

def read : Decoder AttributeDefinition := fun levels w => do
  let r ← Record.ofWritten? ["AttributeName", "AttributeType"] levels w
  let name ← r.required "AttributeName" .text
  let type ← r.required "AttributeType" .text
  some { name, type }

end AttributeDefinition

namespace Index

def toJson (i : Index) : Json :=
  .object [("IndexName", .string i.name), ("KeySchema", .array (i.keys.map KeyElement.toJson))]

def read : Decoder Index := fun levels w => do
  let r ← Record.ofWritten? ["IndexName", "KeySchema"] levels w
  let name ← r.required "IndexName" .text
  let keys ← r.withDefault "KeySchema" [] (.list KeyElement.read)
  some { name, keys }

end Index

namespace Table

def toJson (t : Table) : Json :=
  .object [
    ("TableName", .string t.name),
    ("KeySchema", .array (t.keys.map KeyElement.toJson)),
    ("AttributeDefinitions", .array (t.attributes.map AttributeDefinition.toJson)),
    ("GlobalSecondaryIndexes", .array (t.globalIndexes.map Index.toJson)),
    ("LocalSecondaryIndexes", .array (t.localIndexes.map Index.toJson))]

def read : Decoder Table := fun levels w => do
  let r ← Record.ofWritten?
    ["TableName", "KeySchema", "AttributeDefinitions", "GlobalSecondaryIndexes",
      "LocalSecondaryIndexes"] levels w
  let name ← r.required "TableName" .text
  let keys ← r.withDefault "KeySchema" [] (.list KeyElement.read)
  let attributes ← r.withDefault "AttributeDefinitions" [] (.list AttributeDefinition.read)
  let globalIndexes ← r.withDefault "GlobalSecondaryIndexes" [] (.list Index.read)
  let localIndexes ← r.withDefault "LocalSecondaryIndexes" [] (.list Index.read)
  some { name, keys, attributes, globalIndexes, localIndexes }

end Table

end ItemStore
