/-! # Upper and lower case

Words are looked for without regard to case by taking a text to one case first. The words are in
ASCII, so the maps are spelled out for the ASCII letters and for every other character whose image
contains an ASCII letter. The image of any further character holds no ASCII character, hence
leaving it alone changes no answer.
-/
namespace ItemStore.Text

/-- The upper-case form of a character, where it contains an ASCII letter. -/
def upper (c : Char) : List Char :=
  if c.toNat < 0x80 then [c.toUpper] else
  match c.toNat with
  | 0xDF => ['S', 'S']
  | 0x131 => ['I']
  | 0x149 => ['\u02BC', 'N']
  | 0x17F => ['S']
  | 0x1F0 => ['J', '\u030C']
  | 0x1E96 => ['H', '\u0331']
  | 0x1E97 => ['T', '\u0308']
  | 0x1E98 => ['W', '\u030A']
  | 0x1E99 => ['Y', '\u030A']
  | 0x1E9A => ['A', '\u02BE']
  | 0xFB00 => ['F', 'F']
  | 0xFB01 => ['F', 'I']
  | 0xFB02 => ['F', 'L']
  | 0xFB03 => ['F', 'F', 'I']
  | 0xFB04 => ['F', 'F', 'L']
  | 0xFB05 => ['S', 'T']
  | 0xFB06 => ['S', 'T']
  | _ => [c]

/-- The lower-case form of a character, where it contains an ASCII letter. -/
def lower (c : Char) : List Char :=
  if c.toNat < 0x80 then [c.toLower] else
  match c.toNat with
  | 0x130 => ['i', '\u0307']
  | 0x212A => ['k']
  | _ => [c]

def upperText (text : List Char) : List Char := text.flatMap upper

def lowerText (text : List Char) : List Char := text.flatMap lower

theorem upper_of_ascii {c : Char} (h : c.toNat < 0x80) : upper c = [c.toUpper] := by
  simp [upper, h]

theorem lower_of_ascii {c : Char} (h : c.toNat < 0x80) : lower c = [c.toLower] := by
  simp [lower, h]

/-- The text with its ASCII letters in lower case. -/
def lowerAscii (text : String) : String := String.ofList (text.toList.map Char.toLower)

/-- The two texts differ at most in the case of ASCII letters. -/
def equalIgnoringCase (a b : String) : Bool :=
  a.toList.map Char.toLower == b.toList.map Char.toLower

@[simp] theorem equalIgnoringCase_self (a : String) : equalIgnoringCase a a = true := by
  simp [equalIgnoringCase]

end ItemStore.Text
