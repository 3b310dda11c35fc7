import ItemStore.Json.Printer
import ItemStore.Number.Trimmed
import ItemStore.Text.Search
import ItemStore.Value.Generic

/-! # Literals in previews

A preview shows values the way a reader writes them: strings in single quotes, with a backslash
before a quote inside, and everything long cut to fifty characters.
-/
namespace ItemStore.Upload

def previewLimit : Nat := 50

/-- The text, or its first 47 characters and three points if it is longer than fifty. -/
def cut (text : List Char) : List Char :=
  if text.length ≤ previewLimit then text else text.take (previewLimit - 3) ++ ['.', '.', '.']

def quotedLiteral (s : String) : List Char :=
  ['\''] ++ cut (Text.replaceChar '\'' ['\\', '\''] s.toList) ++ ['\'']

def boolLiteral (b : Bool) : List Char :=
  if b then ['t', 'r', 'u', 'e'] else ['f', 'a', 'l', 's', 'e']

def nullLiteral : List Char := ['n', 'u', 'l', 'l']

/-- A value as the caller gave it. -/
def literal : Json → List Char
  | .null => nullLiteral
  | .string s => quotedLiteral s
  | .bool b => boolLiteral b
  | .number n => n.trimmedText
  | json => cut json.text

/-- A value as it is sent. -/
def parameterLiteral : Value → List Char
  | .string s => quotedLiteral s
  | .number n => n.toList
  | .bool b => boolLiteral b
  | .null => nullLiteral
  | value =>
    match value.toJson with
    | .ok json => cut json.text
    | .error _ => value.kind.placeholder.toList

end ItemStore.Upload
