import ItemStore.Query.Basic
import ItemStore.Text.CaseFold
import ItemStore.Text.Letter
import ItemStore.Text.Search
import ItemStore.Text.Word

/-! # What a statement says

A statement is not parsed as a whole. It is searched for the few things that matter here: the table
it reads, whether it orders its rows, and how it compares the partition key. The first place where
a form fits counts.
-/
namespace ItemStore.Statement
open Text (isBlank trimStart dropStart? dropWord?)

/-- The table that a statement reads and the index through which it reads it. -/
structure Source where
  table : String
  index : Option String := none
  deriving DecidableEq, Repr

/-- What follows one or more blanks. -/
def dropBlanks? : List Char → Option (List Char)
  | c :: rest => if isBlank c then some (trimStart rest) else none
  | [] => none

/-- A keyword, in any case, and the blanks that have to follow it. -/
def dropKeyword? (word : String) (text : List Char) : Option (List Char) :=
  (dropWord? word text).bind dropBlanks?

/-- The longest run of one or more characters of a class. -/
def takeRun? (accepts : Char → Bool) (text : List Char) : Option (List Char × List Char) :=
  let run := text.takeWhile accepts
  if run.isEmpty then none else some (run, text.dropWhile accepts)

/-- A name in double quotes. -/
def takeQuoted? (text : List Char) : Option (String × List Char) := do
  let text ← dropStart? ['"'] text
  let (name, text) ← takeRun? (· != '"') text
  let text ← dropStart? ['"'] text
  some (String.ofList name, text)

def isQuote (c : Char) : Bool := c == '"' || c == '\''

/-- A name without the quotes at its ends. -/
def unquoted (name : List Char) : String :=
  String.ofList ((name.dropWhile isQuote).reverse.dropWhile isQuote).reverse

/-- The form `FROM "table" INDEX "index"` at the start of a text. -/
def quotedIndexed? (text : List Char) : Option Source := do
  let text ← dropKeyword? "from" text
  let (table, text) ← takeQuoted? text
  let text ← dropBlanks? text
  let text ← dropKeyword? "index" text
  let (index, _) ← takeQuoted? text
  some ⟨table, some index⟩

/-- The form `FROM "table"` at the start of a text. -/
def quotedTable? (text : List Char) : Option Source := do
  let text ← dropKeyword? "from" text
  let (table, _) ← takeQuoted? text
  some ⟨table, none⟩

/-- The form `FROM table INDEX index` at the start of a text. -/
def bareIndexed? (text : List Char) : Option Source := do
  let accepts (c : Char) : Bool := !isBlank c && c != '"'
  let text ← dropKeyword? "from" text
  let (table, text) ← takeRun? accepts text
  let text ← dropBlanks? text
  let text ← dropKeyword? "index" text
  let (index, _) ← takeRun? accepts text
  some ⟨unquoted table, some (unquoted index)⟩

/-- The form `FROM table` at the start of a text. -/
def bareTable? (text : List Char) : Option Source := do
  let text ← dropKeyword? "from" text
  let (table, _) ← takeRun? (fun c => !isBlank c && c != '"' && c != ';') text
  some ⟨unquoted table, none⟩

/-- What is found at the first place where anything is found. -/
def search? {α : Type} (find : List Char → Option α) : List Char → Option α
  | [] => find []
  | c :: rest => (find (c :: rest)).or (search? find rest)

/-- The source of a statement. A form with quotes is preferred to one without, and one with an index
to one without, wherever they stand. -/
def source? (statement : String) : Option Source :=
  let text := statement.toList
  (search? quotedIndexed? text).or <| (search? quotedTable? text).or <|
    (search? bareIndexed? text).or <| (search? bareTable? text).filter (·.table ≠ "")

/-- A phrase of upper-case letters stands in the statement, in any case. -/
def mentions (phrase statement : String) : Bool :=
  Text.contains phrase.toList (Text.upperText statement.toList)

def hasOrder (statement : String) : Bool := mentions "ORDER BY" statement

/-- How a key is compared. -/
inductive Comparison
  | equality
  | other
  deriving DecidableEq, Repr

/-- The comparison at the start of a text, blanks aside. -/
def comparison? (text : List Char) : Option Comparison :=
  let text := trimStart text
  match text with
  | '=' :: _ => some .equality
  | '<' :: _ | '>' :: _ | '!' :: '=' :: _ => some .other
  | text => ((dropWord? "in" text).or (dropWord? "between" text)).map fun _ => .other

/-- What follows a key at the start of a text, letter case aside. -/
def dropKey? : (key text : List Char) → Option (List Char)
  | [], text => some text
  | _ :: _, [] => none
  | k :: key, c :: text => if Text.sameLetter k c then dropKey? key text else none

/-- One of two neighbours belongs to a word and the other does not. -/
def isBoundary (before after : Option Char) : Bool :=
  before.any Text.isWord != after.any Text.isWord

/-- An end of a key where a word has to end. -/
def bindsWord (c : Option Char) : Bool := c.any fun c => Text.isAlphanumeric c || c == '_'

/-- The comparison of the key in double quotes at the start of a text. -/
def quotedComparison? (key text : List Char) : Option Comparison := do
  let rest ← dropStart? ['"'] text
  let rest ← dropKey? key rest
  let rest ← dropStart? ['"'] rest
  comparison? rest

/-- The comparison of the bare key at the start of a text, which is no part of a longer word. -/
def bareComparison? (key : List Char) (before : Option Char) (text : List Char) :
    Option Comparison := do
  let rest ← dropKey? key text
  if bindsWord key.head? && !isBoundary before text.head? then none
  if bindsWord key.getLast? && !isBoundary (text.take key.length).getLast? rest.head? then none
  comparison? rest

/-- The first comparison of the key in a text that follows `before`. -/
def firstComparison? (key : List Char) (before : Option Char) (text : List Char) :
    Option Comparison :=
  let here := (quotedComparison? key text).or (bareComparison? key before text)
  match text with
  | [] => here
  | c :: rest => here.or (firstComparison? key (some c) rest)

/-- The statement reads a single partition: the first comparison of the partition key is an
equality. -/
def pinsPartition (statement partitionKey : String) : Bool :=
  partitionKey ≠ "" && firstComparison? partitionKey.toList none statement.toList == some .equality

/-- A name in double quotes; an empty one stays empty. -/
def quoteName (name : String) : String :=
  if name = "" then "" else String.ofList (Text.enclosed '"' name)

/-- The text without the semicolon at its end. -/
def withoutTerminator (text : List Char) : List Char :=
  if text.getLast? = some ';' then text.dropLast else text

/-- The statement with its rows ordered by a key. One that orders them already stays as it is, and
one without a condition cannot be ordered. -/
def withOrder? (statement key : String) (direction : Direction) : Option String :=
  if key = "" then none
  else if hasOrder statement then some statement
  else if mentions "WHERE" statement then
    some (String.ofList (withoutTerminator (Text.trim statement.toList)) ++ " ORDER BY " ++
      quoteName key ++ " " ++ direction.keyword)
  else none

theorem withOrder?_of_hasOrder {statement key : String} (direction : Direction)
    (hk : key ≠ "") (h : hasOrder statement = true) :
    withOrder? statement key direction = some statement := by
  simp [withOrder?, hk, h]

end ItemStore.Statement
