import ItemStore.Toml.Scalar
import ItemStore.Toml.Tree

/-! # Reading TOML documents

A document is a list of lines: headers that open a table, and keys with their values. A value may be
an array or a table in braces, and arrays may run over several lines.
-/
namespace ItemStore.Toml
open Json (Written)
open Text (dropStart?)

/-- How deep arrays and tables in braces may be nested, and how many names a key may have. -/
def maxDepth : Nat := 79

/-- What follows a comment, up to the end of its line. -/
def dropComment (text : List Char) : List Char := text.dropWhile isPrintable

/-- What follows blanks, a comment and the end of the line. The end of the text ends a line too. -/
def endLine? (text : List Char) : Option (List Char) :=
  let text := dropSpaces text
  let text := if text.head? = some '#' then dropComment text else text
  if text.isEmpty then some [] else dropNewline? text

/-- What follows blanks, comments and line ends. The fuel bounds the number of lines. -/
def dropLines? : (fuel : Nat) → List Char → Option (List Char)
  | 0, text => some text
  | fuel + 1, text =>
    let text := dropSpaces text
    match text with
    | '#' :: _ => (dropNewline? (dropComment text)).bind (dropLines? fuel)
    | '\n' :: _ | '\r' :: _ => (dropNewline? text).bind (dropLines? fuel)
    | text => some text

def isBare (c : Char) : Bool := c.isAlphanum || c == '-' || c == '_'

/-- One name of a key, in quotes or bare. -/
def takeName? (text : List Char) : Option (String × List Char) :=
  match text with
  | '"' :: rest => (takeBasic? rest).map fun (cs, rest) => (.ofList cs, rest)
  | '\'' :: rest => (takeLiteral? rest).map fun (cs, rest) => (.ofList cs, rest)
  | text =>
    let name := text.takeWhile isBare
    if name.isEmpty then none else some (.ofList name, text.dropWhile isBare)

/-- The names of a key with points between them, blanks around each left out. -/
def takeNames? : (fuel : Nat) → List Char → Option (List String × List Char)
  | 0, _ => none
  | fuel + 1, text => do
    let (name, text) ← takeName? (dropSpaces text)
    match dropSpaces text with
    | '.' :: text => (takeNames? fuel text).map fun (names, text) => (name :: names, text)
    | text => some ([name], text)

def takeKey? (text : List Char) : Option (Key × List Char) := do
  let (names, text) ← takeNames? maxDepth text
  let name ← names.getLast?
  some (⟨names.dropLast, name⟩, text)

mutual

/-- A value at the start of a text. `depth` is how deep it may still be nested. -/
def takeValue? : (fuel depth : Nat) → List Char → Option (Written × List Char)
  | 0, _, _ => none
  | fuel + 1, depth, text =>
    match text, depth with
    | '[' :: rest, depth + 1 =>
      (takeItems? fuel depth rest).map fun (items, rest) => (.openArray items, rest)
    | '\x7b' :: rest, depth + 1 =>
      match dropSpaces rest with
      | '\x7d' :: rest => some (.object [], rest)
      | rest => do
        let (members, rest) ← takeMembers? fuel depth rest
        (inlineTable? members).map (·, rest)
    | '[' :: _, 0 | '\x7b' :: _, 0 => none
    | '"' :: _, _ | '\'' :: _, _ =>
      (takeString? text).map fun (s, rest) => (.string (some s), rest)
    | 't' :: _, _ => (dropStart? "true".toList text).map (.bool true, ·)
    | 'f' :: _, _ => (dropStart? "false".toList text).map (.bool false, ·)
    | text, _ => takeNumeric? text

/-- The items of an array up to its closing bracket. A comma may follow the last one. -/
def takeItems? : (fuel depth : Nat) → List Char → Option (List Written × List Char)
  | 0, _, _ => none
  | fuel + 1, depth, text => do
    match ← dropLines? text.length text with
    | ']' :: rest => some ([], rest)
    | text =>
      let (item, text) ← takeValue? fuel depth text
      match ← dropLines? text.length text with
      | ',' :: rest => (takeItems? fuel depth rest).map fun (items, rest) => (item :: items, rest)
      | ']' :: rest => some ([item], rest)
      | _ => none

/-- One or more members of a table in braces up to the closing brace. -/
def takeMembers? : (fuel depth : Nat) → List Char → Option (List (Key × Written) × List Char)
  | 0, _, _ => none
  | fuel + 1, depth, text => do
    let (key, text) ← takeKey? text
    let text ← dropStart? ['='] text
    let (value, text) ← takeValue? fuel depth (dropSpaces text)
    match dropSpaces text with
    | ',' :: rest =>
      (takeMembers? fuel depth rest).map fun (members, rest) => ((key, value) :: members, rest)
    | '\x7d' :: rest => some ([(key, value)], rest)
    | _ => none

end

namespace Document

/-- Takes one line in: nothing, a comment, a header, or a key with its value. -/
def takeLine? (document : Document) (text : List Char) : Option (Document × List Char) := do
  match dropSpaces text with
  | '[' :: '[' :: text =>
    let (key, text) ← takeKey? text
    let text ← dropStart? [']', ']'] text
    let text ← endLine? text
    (document.openNextTable? key).map (·, text)
  | '[' :: text =>
    let (key, text) ← takeKey? text
    let text ← dropStart? [']'] text
    let text ← endLine? text
    (document.openTable? key).map (·, text)
  | text =>
    match endLine? text with
    | some text => some (document, text)
    | none =>
      let (key, text) ← takeKey? text
      let text ← dropStart? ['='] text
      let (value, text) ← takeValue? (2 * text.length + 2) maxDepth (dropSpaces text)
      let text ← endLine? text
      (document.assign? key value).map (·, text)

/-- Takes the lines of a text in. Each line takes a character, so the length of the text bounds
their number. -/
def takeLines? : (fuel : Nat) → Document → List Char → Option Document
  | 0, document, text => if text.isEmpty then some document else none
  | fuel + 1, document, text =>
    if text.isEmpty then some document
    else do
      let (document, text) ← document.takeLine? text
      takeLines? fuel document text

end Document

/-- The tables of a text. A mark of the byte order at its start is skipped. -/
def read? (text : String) : Option Written :=
  let text := match text.toList with
    | '\uFEFF' :: rest => rest
    | text => text
  (Document.takeLines? text.length {} text).map Document.toWritten

end ItemStore.Toml
