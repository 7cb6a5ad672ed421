import LightSync.Decimal.Dyadic

/-!
# The shortest decimal that reads back

Among the decimals that lie in the interval of reals rounding to a given double, the one with the
fewest digits is chosen, and among those the one nearest to the double. Grids of one, two, up to
seventeen digits are tried in turn; on each grid only the two neighbours of the value can qualify,
because the interval contains the value.

## Main definitions

- `Digits`: a decimal as its significant digits and the power of ten of the first one
- `Interval`: the reals that round to a double
- `shortest`: the digits of a nonzero double
-/

namespace LightSync.Decimal

/-- A positive decimal: its significant digits, first digit first, and the power of ten that the
first digit counts. -/
structure Digits where
  digits : List Char
  leading : Int
deriving DecidableEq, Repr

/-- The fractions `low / den` to `high / den` between which every real rounds to `value / den`;
both ends belong to the interval when `closed`. -/
structure Interval where
  low : Nat
  value : Nat
  high : Nat
  den : Nat
  closed : Bool

/-- The interval of a double with a positive mantissa. Below a power of two the doubles lie twice
as close as above it, so the lower half gap is halved there. -/
def Interval.ofDyadic (d : Dyadic) : Interval :=
  let narrow := d.mantissa = Nat.pow 2 52 ∧ -1074 < d.exponent
  let up := Nat.pow 2 d.exponent.toNat
  let den := 4 * Nat.pow 2 (-d.exponent).toNat
  { low := (4 * d.mantissa - if narrow then 1 else 2) * up
    value := 4 * d.mantissa * up
    high := (4 * d.mantissa + 2) * up
    den := den
    closed := d.mantissa % 2 = 0 }

/-- Does the fraction `num / scale` lie in the interval? -/
def Interval.contains (i : Interval) (num scale : Nat) : Bool :=
  let point := num * i.den
  if i.closed then i.low * scale ≤ point && point ≤ i.high * scale
  else i.low * scale < point && point < i.high * scale

/-- The power of ten of the first digit of `num / den`. -/
def leadingPower (num den : Nat) : Int :=
  if den ≤ num then (decimalLength (num / den) : Int) - 1
  else -(decimalLength ((den + num - 1) / num - 1) : Int)

/-- The point of the grid of multiples of `10 ^ power` that lies in the interval and is nearest to
its value, counted in grid steps; of two points equally near, the even one. -/
def gridPoint (i : Interval) (power : Int) : Option Nat :=
  let up := Nat.pow 10 power.toNat
  let down := Nat.pow 10 (-power).toNat
  let below := i.value * down / (i.den * up)
  let above := if i.value * down % (i.den * up) = 0 then below else below + 1
  match i.contains (below * up) down, i.contains (above * up) down with
  | true, true => some (roundDiv (i.value * down) (i.den * up) .toEven)
  | true, false => some below
  | false, true => some above
  | false, false => none

/-- The grids with `tried + 1`, `tried + 2`, … digits, as many as `left` says, until one has a
point in the interval. -/
def searchGrids (i : Interval) (leading : Int) (tried : Nat) : Nat → Option (Nat × Int)
  | 0 => none
  | left + 1 =>
    let power := leading - tried
    match gridPoint i power with
    | some steps => some (steps, power)
    | none => searchGrids i leading (tried + 1) left

/-- Digits of a positive number without the zeros at its end. -/
def significant (n : Nat) : List Char :=
  ((Nat.toDigits 10 n).reverse.dropWhile (· == '0')).reverse

/-- The shortest decimal that reads back as the given double, whose mantissa is positive. Seventeen
digits always suffice. -/
def shortest (d : Dyadic) : Digits :=
  let i := Interval.ofDyadic d
  let leading := leadingPower i.value i.den
  match searchGrids i leading 0 17 with
  | some (steps, power) => ⟨significant steps, power + decimalLength steps - 1⟩
  | none => ⟨significant (i.value / i.den), leading⟩

end LightSync.Decimal
