import ItemStore.Upload.Literal

/-! # Statement templates

A question mark outside quotes stands for a parameter. A quote opens a literal that the next quote
of the same kind closes.
-/
namespace ItemStore.Upload

/-- The quote that is open after a character. -/
def nextQuote (quote : Option Char) (c : Char) : Option Char :=
  match quote with
  | some q => if c = q then none else some q
  | none => if c = '\'' ∨ c = '"' then some c else none

/-- The byte offsets of the placeholders in what follows the first `offset` bytes. -/
def placeholdersFrom (quote : Option Char) (offset : Nat) : List Char → List Nat
  | [] => []
  | c :: rest =>
    let later := placeholdersFrom (nextQuote quote c) (offset + c.utf8Size) rest
    if quote = none ∧ c = '?' then offset :: later else later

/-- The byte offsets of the placeholders of a template. -/
def placeholders (template : String) : List Nat := placeholdersFrom none 0 template.toList

/-- The first `n` bytes of a text and those behind them. A text cannot be cut within a character. -/
def cutAt? : Nat → List Char → Option (List Char × List Char)
  | 0, text => some ([], text)
  | _ + 1, [] => none
  | n + 1, c :: rest =>
    if c.utf8Size ≤ n + 1 then (cutAt? (n + 1 - c.utf8Size) rest).map fun cut => (c :: cut.1, cut.2)
    else none

/-- The text that follows the first `offset` bytes of a template, with the byte at each position
replaced by the literal of a parameter. -/
def fill? (offset : Nat) (text : List Char) : List Nat → List Value → Option (List Char)
  | position :: positions, p :: parameters => do
    let (before, rest) ← cutAt? (position - offset) text
    let (_, rest) ← cutAt? 1 rest
    let shown ← fill? (position + 1) rest positions parameters
    some (before ++ parameterLiteral p ++ shown)
  | _, _ => some text

/-- The template with its placeholders replaced by the literals of the parameters, in order.
Placeholders beyond the parameters stay. No placeholder lies within a character. -/
def renderTemplate (template : String) (parameters : List Value) : String :=
  ((fill? 0 template.toList (placeholders template) parameters).map String.ofList).getD template

end ItemStore.Upload
