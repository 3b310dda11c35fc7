/-! # Rounding a quotient

The nearest natural number to a quotient, with the choice that an exact tie needs.
-/
namespace ItemStore.Number

/-- Where a value halfway between two neighbours goes. -/
inductive Tie
  | toEven
  | up
  deriving DecidableEq, Repr

/-- The natural number nearest to `n / d`. -/
def roundDiv (n d : Nat) (tie : Tie) : Nat :=
  let q := n / d
  let r := n % d
  if 2 * r < d then q
  else if d < 2 * r then q + 1
  else match tie with
    | .toEven => if q % 2 = 0 then q else q + 1
    | .up => q + 1

@[simp] theorem roundDiv_one (n : Nat) (tie : Tie) : roundDiv n 1 tie = n := by
  simp [roundDiv, Nat.mod_one]

end ItemStore.Number
