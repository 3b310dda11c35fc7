import ItemStore.Json.Basic
import ItemStore.Number.Notation

/-! # Writing JSON texts

The compact form: no blanks, fields in order, and an escape only where the grammar asks for one.
-/
namespace ItemStore

def JsonNumber.text : JsonNumber → List Char
  | .int i => Number.intText i
  | .float x => x.text .document

namespace Json

def hexDigit (n : Nat) : Char :=
  if n < 10 then Char.ofNat ('0'.toNat + n) else Char.ofNat ('a'.toNat + (n - 10))

/-- A character inside a string: the quote, the backslash and the controls are escaped. -/
def escapeChar (c : Char) : List Char :=
  match c with
  | '"' => ['\\', '"']
  | '\\' => ['\\', '\\']
  | '\x08' => ['\\', 'b']
  | '\x0c' => ['\\', 'f']
  | '\n' => ['\\', 'n']
  | '\r' => ['\\', 'r']
  | '\t' => ['\\', 't']
  | c =>
    if c.toNat < 0x20 then
      ['\\', 'u', '0', '0', hexDigit (c.toNat / 16), hexDigit (c.toNat % 16)]
    else [c]

def stringText (s : String) : List Char := ['"'] ++ s.toList.flatMap escapeChar ++ ['"']

mutual

/-- The compact text of a value. -/
def text : Json → List Char
  | .null => ['n', 'u', 'l', 'l']
  | .bool true => ['t', 'r', 'u', 'e']
  | .bool false => ['f', 'a', 'l', 's', 'e']
  | .number n => n.text
  | .string s => stringText s
  | .array [] => ['[', ']']
  | .array (v :: rest) => '[' :: (v.text ++ itemsText rest)
  | .object [] => ['\x7b', '\x7d']
  | .object ((name, v) :: rest) => '\x7b' :: (stringText name ++ ':' :: (v.text ++ fieldsText rest))

/-- The items after the first, and the closing bracket. -/
def itemsText : List Json → List Char
  | [] => [']']
  | v :: rest => ',' :: (v.text ++ itemsText rest)

/-- The fields after the first, and the closing brace. -/
def fieldsText : List (String × Json) → List Char
  | [] => ['\x7d']
  | (name, v) :: rest => ',' :: (stringText name ++ ':' :: (v.text ++ fieldsText rest))

end

/-- The compact text of a value. -/
def render (json : Json) : String := String.ofList json.text

end Json

end ItemStore
