import ItemStore.Json.Written
import ItemStore.Text.Utf8

/-! # Reading JSON texts

The strict grammar: no trailing comma, no raw control character in a string, no number with a
leading zero, nothing after the value but blanks.
-/
namespace ItemStore.Json
open Text (Symbol)
open Number (isDigit natOfDigits Binary64)

def isSpace (c : Char) : Bool := c == ' ' || c == '\t' || c == '\n' || c == '\r'

def skipSpaces : List Symbol → List Symbol
  | some c :: rest => if isSpace c then skipSpaces rest else some c :: rest
  | text => text

def hexValue? (c : Char) : Option Nat :=
  if '0' ≤ c && c ≤ '9' then some (c.toNat - '0'.toNat)
  else if 'a' ≤ c && c ≤ 'f' then some (c.toNat - 'a'.toNat + 10)
  else if 'A' ≤ c && c ≤ 'F' then some (c.toNat - 'A'.toNat + 10)
  else none

/-- The four hexadecimal digits of an escape, and what follows them. -/
def hex4? : List Symbol → Option (Nat × List Symbol)
  | some a :: some b :: some c :: some d :: rest => do
    let a ← hexValue? a
    let b ← hexValue? b
    let c ← hexValue? c
    let d ← hexValue? d
    some (((a * 16 + b) * 16 + c) * 16 + d, rest)
  | _ => none

/-- The character of an escape that is one letter. -/
def escapedChar? : Char → Option Char
  | '"' => some '"'
  | '\\' => some '\\'
  | '/' => some '/'
  | 'b' => some '\x08'
  | 'f' => some '\x0c'
  | 'n' => some '\n'
  | 'r' => some '\r'
  | 't' => some '\t'
  | _ => none

def isHighHalf (n : Nat) : Bool := 0xD800 ≤ n && n ≤ 0xDBFF

def isLowHalf (n : Nat) : Bool := 0xDC00 ≤ n && n ≤ 0xDFFF

/-- The character that two halves name together. -/
def joinHalves (high low : Nat) : Char :=
  Char.ofNat (0x10000 + (high - 0xD800) * 0x400 + (low - 0xDC00))

/-- The rest of a string after its opening quote. `taken` holds the characters so far, the last one
first, and is none once the string is known to denote no text. -/
def readString? : (fuel : Nat) → (taken : Option (List Char)) → List Symbol →
    Option (Option String × List Symbol)
  | 0, _, _ => none
  | _ + 1, _, [] => none
  | fuel + 1, _, none :: rest => readString? fuel none rest
  | fuel + 1, taken, some c :: rest =>
    if c = '"' then some (taken.map fun cs => String.ofList cs.reverse, rest)
    else if c = '\\' then
      match rest with
      | some 'u' :: rest =>
        match hex4? rest with
        | none => none
        | some (n, rest) =>
          if isHighHalf n then
            match rest with
            | some '\\' :: some 'u' :: more =>
              match hex4? more with
              | some (m, more) =>
                if isLowHalf m then readString? fuel (taken.map (joinHalves n m :: ·)) more
                else readString? fuel none rest
              | none => none
            | _ => readString? fuel none rest
          else if isLowHalf n then readString? fuel none rest
          else readString? fuel (taken.map (Char.ofNat n :: ·)) rest
      | some e :: rest =>
        match escapedChar? e with
        | some d => readString? fuel (taken.map (d :: ·)) rest
        | none => none
      | _ => none
    else if c.toNat < 0x20 then none
    else readString? fuel (taken.map (c :: ·)) rest

/-- The digits at the start, and what follows them. -/
def takeDigits : List Symbol → List Char × List Symbol
  | some c :: rest =>
    if isDigit c then
      let (digits, rest) := takeDigits rest
      (c :: digits, rest)
    else ([], some c :: rest)
  | text => ([], text)

/-- The value of a numeral. Without fraction and exponent it is an integer if 64 bits hold it;
a minus before zero makes a float. -/
def numeralValue? (negative : Bool) (whole : List Char) (fraction : List Char)
    (exponent : Option Int) : Option JsonNumber :=
  let n := natOfDigits whole
  let i : Int := if negative then -n else n
  if fraction.isEmpty && exponent.isNone && !(negative && n == 0) &&
      Number.int64Min ≤ i && i ≤ Number.nat64Max then some (.int i)
  else
    let x := Binary64.ofDecimal negative (natOfDigits (whole ++ fraction))
      (exponent.getD 0 - fraction.length)
    if x.isFinite then some (.float x) else none

/-- The exponent at the start, if there is one. -/
def readExponent? : List Symbol → Option (Option Int × List Symbol)
  | some c :: rest =>
    if c = 'e' ∨ c = 'E' then
      let (negative, rest) := match rest with
        | some '-' :: rest => (true, rest)
        | some '+' :: rest => (false, rest)
        | rest => (false, rest)
      let (digits, rest) := takeDigits rest
      if digits.isEmpty then none
      else
        let n : Int := natOfDigits digits
        some (some (if negative then -n else n), rest)
    else some (none, some c :: rest)
  | text => some (none, text)

def readNumeral? (text : List Symbol) : Option (Written × List Symbol) := do
  let (negative, text) := match text with
    | some '-' :: rest => (true, rest)
    | text => (false, text)
  let (whole, text) := takeDigits text
  if whole.isEmpty || (whole.length > 1 && whole.head? == some '0') then none
  let (fraction, text) ← match text with
    | some '.' :: rest =>
      let (digits, rest) := takeDigits rest
      if digits.isEmpty then none else some (digits, rest)
    | text => some ([], text)
  let (exponent, text) ← readExponent? text
  some (.number (numeralValue? negative whole fraction exponent), text)

mutual

/-- The value at the start of the text, and what follows it. -/
def readValue? : (fuel : Nat) → List Symbol → Option (Written × List Symbol)
  | 0, _ => none
  | fuel + 1, text =>
    match skipSpaces text with
    | some '\x7b' :: rest =>
      match skipSpaces rest with
      | some '\x7d' :: rest => some (.object [], rest)
      | rest => (readMembers? fuel rest).map fun (members, rest) => (.object members, rest)
    | some '[' :: rest =>
      match skipSpaces rest with
      | some ']' :: rest => some (.array [], rest)
      | rest => (readItems? fuel rest).map fun (items, rest) => (.array items, rest)
    | some '"' :: rest =>
      (readString? (rest.length + 1) (some []) rest).map fun (s, rest) => (.string s, rest)
    | some 'n' :: some 'u' :: some 'l' :: some 'l' :: rest => some (.null, rest)
    | some 't' :: some 'r' :: some 'u' :: some 'e' :: rest => some (.bool true, rest)
    | some 'f' :: some 'a' :: some 'l' :: some 's' :: some 'e' :: rest => some (.bool false, rest)
    | text => readNumeral? text

/-- One or more items of an array up to its closing bracket. -/
def readItems? : (fuel : Nat) → List Symbol → Option (List Written × List Symbol)
  | 0, _ => none
  | fuel + 1, text => do
    let (item, rest) ← readValue? fuel text
    match skipSpaces rest with
    | some ',' :: rest => do
      let (items, rest) ← readItems? fuel rest
      some (item :: items, rest)
    | some ']' :: rest => some ([item], rest)
    | _ => none

/-- One or more members of an object up to its closing brace. -/
def readMembers? : (fuel : Nat) → List Symbol → Option (List (Option String × Written) × List Symbol)
  | 0, _ => none
  | fuel + 1, text =>
    match skipSpaces text with
    | some '"' :: rest => do
      let (name, rest) ← readString? (rest.length + 1) (some []) rest
      match skipSpaces rest with
      | some ':' :: rest => do
        let (value, rest) ← readValue? fuel rest
        match skipSpaces rest with
        | some ',' :: rest => do
          let (members, rest) ← readMembers? fuel rest
          some ((name, value) :: members, rest)
        | some '\x7d' :: rest => some ([(name, value)], rest)
        | _ => none
      | _ => none
    | _ => none

end

/-- The text as it is written, if it is one JSON value. Each step of the reader takes a symbol, so
the length of the text bounds their number. -/
def Written.read? (text : List Symbol) : Option Written :=
  match readValue? (2 * text.length + 2) text with
  | some (written, rest) => if (skipSpaces rest).isEmpty then some written else none
  | none => none

/-- The value of a JSON text. -/
def parse? (text : String) : Option Json :=
  (Written.read? (Text.symbolsOf text)).bind (·.value? maxLevels)

end ItemStore.Json
