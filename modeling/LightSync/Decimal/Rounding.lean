/-!
# Rounding quotients

Rounding a quotient of natural numbers to an integer, with the treatment of an exact half as a
parameter, and the number of decimal digits of a natural number.

## Main definitions

- `Tie`: where an exact half goes
- `roundDiv`: the integer nearest to a quotient
- `decimalLength`: how many decimal digits a number has
-/

namespace LightSync.Decimal

/-- Where a value exactly half way between two integers goes. -/
inductive Tie where
  | toEven
  | awayFromZero
deriving DecidableEq, Repr

/-- The integer nearest to `num / den`; an exact half goes where `tie` says. -/
def roundDiv (num den : Nat) (tie : Tie) : Nat :=
  let whole := num / den
  let rest := 2 * (num % den)
  if rest < den then whole
  else if den < rest then whole + 1
  else match tie with
    | .awayFromZero => whole + 1
    | .toEven => if whole % 2 = 0 then whole else whole + 1

/-- The rounded quotient is within half a unit of the exact one. -/
theorem roundDiv_near (num den : Nat) (tie : Tie) (h : 0 < den) :
    2 * (roundDiv num den tie * den) ≤ 2 * num + den ∧
      2 * num ≤ 2 * (roundDiv num den tie * den) + den := by
  have split := Nat.div_add_mod num den
  have small := Nat.mod_lt num h
  have expand : (num / den + 1) * den = den * (num / den) + den := by
    rw [Nat.add_mul, Nat.mul_comm, Nat.one_mul]
  have flat : num / den * den = den * (num / den) := Nat.mul_comm ..
  unfold roundDiv
  cases tie <;> dsimp only <;> repeat' split
  all_goals omega

/-- A quotient without remainder is kept. -/
theorem roundDiv_mul_self (n den : Nat) (tie : Tie) (h : 0 < den) :
    roundDiv (n * den) den tie = n := by
  simp [roundDiv, Nat.mul_div_cancel _ h, h]

/-- The number of decimal digits of `n`; zero has one. -/
def decimalLength (n : Nat) : Nat :=
  if n < 10 then 1 else decimalLength (n / 10) + 1

end LightSync.Decimal
