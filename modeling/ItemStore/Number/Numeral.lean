import ItemStore.Number.Binary64

/-! # Reading numerals

The grammar of integers and of decimal numbers in text, and the value that each denotes.
-/
namespace ItemStore.Number

def isDigit (c : Char) : Bool := '0' ≤ c && c ≤ '9'

def digitValue (c : Char) : Nat := c.toNat - '0'.toNat

/-- The number that a row of decimal digits denotes. -/
def natOfDigits (digits : List Char) : Nat :=
  digits.foldl (fun n c => n * 10 + digitValue c) 0

/-- A row of at least one digit and nothing else. -/
def readNat? (text : List Char) : Option Nat :=
  if !text.isEmpty && text.all isDigit then some (natOfDigits text) else none

/-- Splits off a sign; true stands for minus. -/
def takeSign : List Char → Bool × List Char
  | '-' :: rest => (true, rest)
  | '+' :: rest => (false, rest)
  | text => (false, text)

def int64Min : Int := -9223372036854775808
def int64Max : Int := 9223372036854775807
def nat64Max : Int := 18446744073709551615

def fitsInt64 (i : Int) : Bool := int64Min ≤ i && i ≤ int64Max

theorem fitsInt64_iff {i : Int} : fitsInt64 i = true ↔ int64Min ≤ i ∧ i ≤ int64Max := by
  simp [fitsInt64]

/-- An optional sign and digits, within 64 bits. -/
def readInt64? (text : List Char) : Option Int :=
  let (negative, digits) := takeSign text
  match readNat? digits with
  | some n =>
    let i : Int := if negative then -n else n
    if fitsInt64 i then some i else none
  | none => none

theorem fitsInt64_of_readInt64? {text : List Char} {i : Int} (h : readInt64? text = some i) :
    fitsInt64 i = true := by
  unfold readInt64? at h
  grind

/-- The exponent part that may follow the digits of a decimal number. -/
def readExponent? : List Char → Option Int
  | [] => some 0
  | c :: rest =>
    if c = 'e' ∨ c = 'E' then
      let (negative, digits) := takeSign rest
      (readNat? digits).map fun n => if negative then -n else n
    else none

/-- Digits with an optional point among or around them, then an optional exponent. -/
def readUnsigned? (negative : Bool) (text : List Char) : Option Binary64 :=
  let whole := text.takeWhile isDigit
  let afterWhole := text.dropWhile isDigit
  let (fraction, afterFraction) := match afterWhole with
    | '.' :: rest => (rest.takeWhile isDigit, rest.dropWhile isDigit)
    | rest => ([], rest)
  if whole.isEmpty && fraction.isEmpty then none
  else do
    let exponent ← readExponent? afterFraction
    some (Binary64.ofDecimal negative (natOfDigits (whole ++ fraction)) (exponent - fraction.length))

/-- A decimal number, or one of the words for infinity and for no number in any case. -/
def readFloat? (text : List Char) : Option Binary64 :=
  let (negative, body) := takeSign text
  let word := String.ofList (body.map Char.toLower)
  if word == "inf" || word == "infinity" then some (.infinite negative)
  else if word == "nan" then some .nan
  else readUnsigned? negative body

end ItemStore.Number
