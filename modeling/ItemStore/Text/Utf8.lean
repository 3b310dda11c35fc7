/-! # Characters of a byte sequence

UTF-8 read leniently: every byte that belongs to no well-formed character becomes a gap, so that a
reader can tell where the sequence is broken.
-/
namespace ItemStore.Text

/-- A character, or `none` for a byte that belongs to no character. -/
abbrev Symbol := Option Char

/-- The payload of a continuation byte. -/
def continuation? (b : UInt8) : Option Nat :=
  if 0x80 ≤ b && b ≤ 0xBF then some (b.toNat - 0x80) else none

/-- The character that begins with byte `a` and goes on with bytes of `rest`, and how many of them
it takes: the shortest form, no surrogate, nothing above U+10FFFF. -/
def charAt? (a : UInt8) (rest : List UInt8) : Option (Char × Nat) :=
  if a < 0x80 then some (Char.ofNat a.toNat, 0)
  else if 0xC2 ≤ a && a ≤ 0xDF then
    match rest with
    | b :: _ => do
      let x ← continuation? b
      some (Char.ofNat ((a.toNat - 0xC0) * 0x40 + x), 1)
    | [] => none
  else if 0xE0 ≤ a && a ≤ 0xEF then
    match rest with
    | b :: c :: _ => do
      let x ← continuation? b
      let y ← continuation? c
      let n := (a.toNat - 0xE0) * 0x1000 + x * 0x40 + y
      if n < 0x800 || (0xD800 ≤ n && n ≤ 0xDFFF) then none else some (Char.ofNat n, 2)
    | _ => none
  else if 0xF0 ≤ a && a ≤ 0xF4 then
    match rest with
    | b :: c :: d :: _ => do
      let x ← continuation? b
      let y ← continuation? c
      let z ← continuation? d
      let n := (a.toNat - 0xF0) * 0x40000 + x * 0x1000 + y * 0x40 + z
      if n < 0x10000 || 0x10FFFF < n then none else some (Char.ofNat n, 3)
    | _ => none
  else none

/-- The symbols of a byte sequence, in order. -/
def symbols : List UInt8 → List Symbol
  | [] => []
  | a :: rest =>
    match charAt? a rest with
    | some (c, more) => some c :: symbols (rest.drop more)
    | none => none :: symbols rest
termination_by bytes => bytes.length
decreasing_by
  · simp only [List.length_drop, List.length_cons]; omega
  · simp

@[simp] theorem symbols_nil : symbols [] = [] := by
  rw [symbols]

/-- The symbols of a text: its characters, without a gap. -/
def symbolsOf (text : String) : List Symbol := text.toList.map some

end ItemStore.Text
