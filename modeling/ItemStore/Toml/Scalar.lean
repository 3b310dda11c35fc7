import ItemStore.Json.Reader
import ItemStore.Text.Search
import ItemStore.Time.Calendar

/-! # Simple values of a TOML document

Strings in four kinds of quotes, numbers, truth values, and dates and times. Each reader takes a
value from the start of the text and gives what follows it.
-/
namespace ItemStore.Toml
open Json (Written)
open Number (isDigit natOfDigits)
open Text (dropStart?)

def isSpace (c : Char) : Bool := c == ' ' || c == '\t'

def dropSpaces (text : List Char) : List Char := text.dropWhile isSpace

/-- A character that may stand in a line: a tab, or no control character. -/
def isPrintable (c : Char) : Bool := c == '\t' || (0x20 ≤ c.toNat && c.toNat != 0x7F)

/-- What follows the end of a line. -/
def dropNewline? : List Char → Option (List Char)
  | '\n' :: rest => some rest
  | '\r' :: '\n' :: rest => some rest
  | _ => none

/-- The text without a line end at its start. -/
def afterNewline (text : List Char) : List Char := (dropNewline? text).getD text

/-! ### Strings -/

/-- The character with that code point in so many hexadecimal digits. -/
def codePoint? (count : Nat) (text : List Char) : Option Char := do
  let digits ← (text.take count).mapM Json.hexValue?
  let n := digits.foldl (fun n d => n * 16 + d) 0
  if digits.length = count ∧ n.isValidChar then some (Char.ofNat n) else none

/-- The character of an escape, and how many characters after the backslash it takes. -/
def escape? : List Char → Option (Char × Nat)
  | 'b' :: _ => some ('\x08', 1)
  | 't' :: _ => some ('\t', 1)
  | 'n' :: _ => some ('\n', 1)
  | 'f' :: _ => some ('\x0c', 1)
  | 'r' :: _ => some ('\r', 1)
  | '"' :: _ => some ('"', 1)
  | '\\' :: _ => some ('\\', 1)
  | 'u' :: rest => (codePoint? 4 rest).map (·, 5)
  | 'U' :: rest => (codePoint? 8 rest).map (·, 9)
  | _ => none

/-- How many characters the white space at the start takes, line ends included. -/
def gapLength : List Char → Nat
  | ' ' :: rest | '\t' :: rest | '\n' :: rest => gapLength rest + 1
  | '\r' :: '\n' :: rest => gapLength rest + 2
  | _ => 0

/-- How many characters a broken line takes after its backslash: blanks, a line end, and all white
space that follows. -/
def lineBreak? (text : List Char) : Option Nat :=
  let blanks := (text.takeWhile isSpace).length
  (dropNewline? (text.drop blanks)).map fun _ => blanks + gapLength (text.drop blanks)

/-- The rest of a string in double quotes. -/
def takeBasic? : List Char → Option (List Char × List Char)
  | [] => none
  | '"' :: rest => some ([], rest)
  | '\\' :: rest => do
    let (c, count) ← escape? rest
    let (cs, rest) ← takeBasic? (rest.drop count)
    some (c :: cs, rest)
  | c :: rest =>
    if isPrintable c then (takeBasic? rest).map fun (cs, rest) => (c :: cs, rest) else none
termination_by text => text.length
decreasing_by
  · simp only [List.length_drop, List.length_cons]; omega
  · simp

/-- The rest of a string in single quotes. -/
def takeLiteral? : List Char → Option (List Char × List Char)
  | [] => none
  | '\'' :: rest => some ([], rest)
  | c :: rest =>
    if isPrintable c then (takeLiteral? rest).map fun (cs, rest) => (c :: cs, rest) else none

/-- The quotes before the three that close a string of several lines, and what follows those. At
most two quotes at the end belong to the string. -/
def closing? (quote : Char) (text : List Char) : Option (List Char × List Char) :=
  let quotes := min 5 (text.takeWhile (· == quote)).length
  if 3 ≤ quotes then some (List.replicate (quotes - 3) quote, text.drop quotes) else none

/-- The rest of a string of several lines in double quotes. -/
def takeLongBasic? (text : List Char) : Option (List Char × List Char) :=
  match closing? '"' text with
  | some done => some done
  | none =>
    match text with
    | [] => none
    | '\r' :: '\n' :: rest => (takeLongBasic? rest).map fun (cs, rest) => ('\n' :: cs, rest)
    | '\\' :: rest =>
      match lineBreak? rest with
      | some count => takeLongBasic? (rest.drop count)
      | none => do
        let (c, count) ← escape? rest
        let (cs, rest) ← takeLongBasic? (rest.drop count)
        some (c :: cs, rest)
    | c :: rest =>
      if c == '\n' || isPrintable c then (takeLongBasic? rest).map fun (cs, rest) => (c :: cs, rest)
      else none
termination_by text.length
decreasing_by
  all_goals simp only [List.length_drop, List.length_cons]; omega

/-- The rest of a string of several lines in single quotes. -/
def takeLongLiteral? (text : List Char) : Option (List Char × List Char) :=
  match closing? '\'' text with
  | some done => some done
  | none =>
    match text with
    | [] => none
    | '\r' :: '\n' :: rest => (takeLongLiteral? rest).map fun (cs, rest) => ('\n' :: cs, rest)
    | c :: rest =>
      if c == '\n' || isPrintable c then
        (takeLongLiteral? rest).map fun (cs, rest) => (c :: cs, rest)
      else none

/-- A string in quotes of any kind. -/
def takeString? : List Char → Option (String × List Char)
  | '"' :: '"' :: '"' :: rest => (takeLongBasic? (afterNewline rest)).map fun (cs, rest) => (.ofList cs, rest)
  | '\'' :: '\'' :: '\'' :: rest => (takeLongLiteral? (afterNewline rest)).map fun (cs, rest) => (.ofList cs, rest)
  | '"' :: rest => (takeBasic? rest).map fun (cs, rest) => (.ofList cs, rest)
  | '\'' :: rest => (takeLiteral? rest).map fun (cs, rest) => (.ofList cs, rest)
  | _ => none

/-! ### Numbers -/

/-- The digits at the start, single underscores between them left out. -/
def takeGrouped (accepts : Char → Bool) : List Char → List Char × List Char
  | '_' :: c :: rest =>
    if accepts c then
      let (digits, rest) := takeGrouped accepts rest
      (c :: digits, rest)
    else ([], '_' :: c :: rest)
  | c :: rest =>
    if accepts c then
      let (digits, rest) := takeGrouped accepts rest
      (c :: digits, rest)
    else ([], c :: rest)
  | [] => ([], [])

/-- One or more digits, the first of which no underscore precedes. -/
def takeDigits? (accepts : Char → Bool) (text : List Char) : Option (List Char × List Char) :=
  if text.head?.any accepts then some (takeGrouped accepts text) else none

/-- A sign, if there is one. -/
def takeSign : List Char → List Char × List Char
  | '-' :: rest => (['-'], rest)
  | '+' :: rest => ([], rest)
  | text => ([], text)

/-- A decimal integer: a zero has no digit after it. -/
def takeDecimal? (text : List Char) : Option (List Char × List Char) :=
  let (sign, text) := takeSign text
  match text with
  | '0' :: rest => some (sign ++ ['0'], rest)
  | text => (takeDigits? isDigit text).map fun (digits, rest) => (sign ++ digits, rest)

/-- A point and digits. -/
def takeFraction? : List Char → Option (List Char × List Char)
  | '.' :: rest => (takeDigits? isDigit rest).map fun (digits, rest) => ('.' :: digits, rest)
  | _ => none

/-- A letter `e`, a sign, and digits. -/
def takeExponent? : List Char → Option (List Char × List Char)
  | c :: rest =>
    if c = 'e' ∨ c = 'E' then
      let (sign, rest) := takeSign rest
      (takeDigits? isDigit rest).map fun (digits, rest) => ('e' :: sign ++ digits, rest)
    else none
  | [] => none

/-- The value of a decimal number, if it is not beyond all floats on the positive side. -/
def floatValue? (digits : List Char) : Option Written :=
  match Number.readFloat? digits with
  | some (.infinite false) => none
  | x => x.map fun x => .number (some (.float x))

/-- A number with a fraction or an exponent. -/
def takeFloat? (text : List Char) : Option (Written × List Char) := do
  let (whole, text) ← takeDecimal? text
  let (digits, text) ← match takeFraction? text with
    | some (fraction, text) =>
      match takeExponent? text with
      | some (exponent, text) => some (whole ++ fraction ++ exponent, text)
      | none => some (whole ++ fraction, text)
    | none => (takeExponent? text).map fun (exponent, text) => (whole ++ exponent, text)
  (floatValue? digits).map (·, text)

/-- One of the words for infinity and for no number. -/
def takeSpecial? (text : List Char) : Option (Written × List Char) :=
  let (sign, text) := takeSign text
  match text with
  | 'i' :: 'n' :: 'f' :: rest => some (.number (some (.float (.infinite (sign ≠ [])))), rest)
  | 'n' :: 'a' :: 'n' :: rest => some (.number (some (.float .nan)), rest)
  | _ => none

def isOctal (c : Char) : Bool := '0' ≤ c && c ≤ '7'

def isBinary (c : Char) : Bool := c == '0' || c == '1'

/-- The value of digits in a base, within 64 bits. -/
def basedValue? (base : Nat) (digits : List Char) : Option Int :=
  let n : Int := digits.foldl (fun n c => n * base + (Json.hexValue? c).getD 0) 0
  if Number.fitsInt64 n then some n else none

def takeBased? (base : Nat) (accepts : Char → Bool) (text : List Char) : Option (Int × List Char) := do
  let (digits, rest) ← takeDigits? accepts text
  (basedValue? base digits).map (·, rest)

def takeInteger? : List Char → Option (Int × List Char)
  | '0' :: 'x' :: rest => takeBased? 16 (fun c => (Json.hexValue? c).isSome) rest
  | '0' :: 'o' :: rest => takeBased? 8 isOctal rest
  | '0' :: 'b' :: rest => takeBased? 2 isBinary rest
  | text => do
    let (digits, rest) ← takeDecimal? text
    (Number.readInt64? digits).map (·, rest)

/-! ### Dates and times -/

/-- A number in exactly so many digits and between two bounds. -/
def takePart? (count low high : Nat) (text : List Char) : Option (Nat × List Char) :=
  let digits := text.take count
  let n := natOfDigits digits
  if digits.length = count ∧ digits.all isDigit ∧ low ≤ n ∧ n ≤ high then some (n, text.drop count)
  else none

def dropDate? (text : List Char) : Option (List Char) := do
  let (year, text) ← takePart? 4 0 9999 text
  let text ← dropStart? ['-'] text
  let (month, text) ← takePart? 2 1 12 text
  let text ← dropStart? ['-'] text
  let (_, text) ← takePart? 2 1 (Time.daysInMonth year month) text
  some text

def dropFraction (text : List Char) : List Char :=
  match text with
  | '.' :: c :: rest => if isDigit c then rest.dropWhile isDigit else text
  | text => text

def dropTime? (text : List Char) : Option (List Char) := do
  let (_, text) ← takePart? 2 0 23 text
  let text ← dropStart? [':'] text
  let (_, text) ← takePart? 2 0 59 text
  let text ← dropStart? [':'] text
  let (_, text) ← takePart? 2 0 60 text
  some (dropFraction text)

def dropOffset? : List Char → Option (List Char)
  | 'Z' :: rest | 'z' :: rest => some rest
  | c :: rest =>
    if c = '+' ∨ c = '-' then do
      let (_, text) ← takePart? 2 0 23 rest
      let text ← dropStart? [':'] text
      let (_, text) ← takePart? 2 0 59 text
      some text
    else none
  | [] => none

def isDateEnd (c : Char) : Bool := c == 'T' || c == 't' || c == ' '

/-- What follows a time after a date, with or without its distance from universal time. -/
def dropDatedTime? : List Char → Option (List Char)
  | c :: rest =>
    if isDateEnd c then (dropTime? rest).map fun text => (dropOffset? text).getD text else none
  | [] => none

/-- A date, a time, or both. Nothing asks for their value: they stand as a table with one member. -/
def takeDateTime? (text : List Char) : Option (Written × List Char) :=
  let rest := match dropDate? text with
    | some text => some ((dropDatedTime? text).getD text)
    | none => dropTime? text
  rest.map fun rest => (.object [(some "datetime", .null)], rest)

/-- A number, a date or a time. -/
def takeNumeric? (text : List Char) : Option (Written × List Char) :=
  (takeDateTime? text).or <| (takeFloat? text).or <| (takeSpecial? text).or <|
    (takeInteger? text).map fun (i, rest) => (.number (some (.int i)), rest)

end ItemStore.Toml
