import ItemStore.Text.Visible

/-! # Quoted text in messages

A message quotes a text in double quotes. Visible characters stand for themselves, the quote and
the backslash follow a backslash, four controls have a letter, and any other character is given by
its code point.
-/
namespace ItemStore.Text

def hexText (n : Nat) : List Char := Nat.toDigits 16 n

def quoteChar (c : Char) : List Char :=
  match c with
  | '"' => ['\\', '"']
  | '\\' => ['\\', '\\']
  | '\n' => ['\\', 'n']
  | '\r' => ['\\', 'r']
  | '\t' => ['\\', 't']
  | '\x00' => ['\\', '0']
  | c => if isVisible c then [c] else ['\\', 'u', '\x7b'] ++ hexText c.toNat ++ ['\x7d']

/-- The text between double quotes, with every character shown. -/
def quoted (text : String) : String :=
  String.ofList (['"'] ++ text.toList.flatMap quoteChar ++ ['"'])

end ItemStore.Text
