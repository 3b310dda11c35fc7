import ItemStore.Value.Basic
import ItemStore.Base64
import ItemStore.Json.Record
import ItemStore.Json.Printer

/-! # Values on the wire

A value is written as an object whose one member is named by the kind: strings and numbers as
strings, bytes in base64, and null as true. Reading takes either truth value for null.
-/
namespace ItemStore.Value

mutual

/-- The JSON form of a value. -/
def toWire : Value → Json
  | .string s => .object [("S", .string s)]
  | .number n => .object [("N", .string n)]
  | .binary bytes => .object [("B", .string (Base64.encodeText bytes))]
  | .bool b => .object [("BOOL", .bool b)]
  | .null => .object [("NULL", .bool true)]
  | .map entries => .object [("M", .object (toWireEntries entries))]
  | .list items => .object [("L", .array (toWireItems items))]
  | .stringSet items => .object [("SS", .array (items.map .string))]
  | .numberSet items => .object [("NS", .array (items.map .string))]
  | .binarySet items =>
    .object [("BS", .array (items.map fun bytes => .string (Base64.encodeText bytes)))]

def toWireItems : List Value → List Json
  | [] => []
  | v :: rest => toWire v :: toWireItems rest

def toWireEntries : List (String × Value) → List (String × Json)
  | [] => []
  | (name, v) :: rest => (name, toWire v) :: toWireEntries rest

end

def rowToWire (row : Row) : Json := .object (toWireEntries row)

open Json (Written Decoder)

def readBytes : Decoder (List UInt8) := fun levels w =>
  (Decoder.text levels w).bind Base64.decodeText?

mutual

/-- Reads the JSON form of a value. -/
def ofWire? (levels : Nat) : Written → Option Value
  | .object [(some tag, content)] =>
    match levels with
    | 0 => none
    | levels + 1 =>
      match tag, content with
      | "S", content => (Decoder.text levels content).map .string
      | "N", content => (Decoder.text levels content).map .number
      | "B", content => (readBytes levels content).map .binary
      | "BOOL", content => (Decoder.flag levels content).map .bool
      | "NULL", content => (Decoder.flag levels content).map fun _ => .null
      | "M", .object members =>
        match levels with
        | 0 => none
        | levels + 1 => (ofWireEntries? levels members).map fun entries => .map (Entries.ofPairs entries)
      | "L", .array items =>
        match levels with
        | 0 => none
        | levels + 1 => (ofWireItems? levels items).map .list
      | "SS", content => (Decoder.list Decoder.text levels content).map .stringSet
      | "NS", content => (Decoder.list Decoder.text levels content).map .numberSet
      | "BS", content => (Decoder.list readBytes levels content).map .binarySet
      | _, _ => none
  | _ => none

def ofWireItems? (levels : Nat) : List Written → Option (List Value)
  | [] => some []
  | w :: rest => do
    let v ← ofWire? levels w
    let vs ← ofWireItems? levels rest
    some (v :: vs)

def ofWireEntries? (levels : Nat) : List (Option String × Written) → Option (List (String × Value))
  | [] => some []
  | (name, w) :: rest => do
    let name ← name
    let v ← ofWire? levels w
    let vs ← ofWireEntries? levels rest
    some ((name, v) :: vs)

end

/-- Reads the JSON form of a row. -/
def readRow : Decoder Row := fun levels w =>
  match w, levels with
  | .object members, levels + 1 => (ofWireEntries? levels members).map Entries.ofPairs
  | _, _ => none

end ItemStore.Value
