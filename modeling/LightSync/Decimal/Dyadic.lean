import LightSync.Decimal.Rounding

/-!
# Doubles as exact dyadic numbers

A finite double is a sign and a natural number times a power of two. Everything that must be
exact about a double (its integer part, its rounding to tenths or to nanoseconds, its shortest
decimal form) is computed from that view in natural-number arithmetic.

## Main definitions

- `Dyadic`, `Dyadic.ofFloat?`: the exact value of a finite double
- `Dyadic.round`: a multiple of the magnitude, rounded to an integer
- `clampTruncated`: a double cut to its integer part and held within bounds
-/

namespace LightSync.Decimal

/-- The number `mantissa * 2 ^ exponent` with a sign; zero has both signs. -/
structure Dyadic where
  negative : Bool
  mantissa : Nat
  exponent : Int
deriving DecidableEq, Repr

namespace Dyadic

/-- The exact value of a double, unless it is infinite or not a number. -/
def ofFloat? (x : Float) : Option Dyadic :=
  let bits := x.toBits.toNat
  let negative := bits / Nat.pow 2 63 == 1
  let biased : Nat := bits / Nat.pow 2 52 % Nat.pow 2 11
  let fraction := bits % Nat.pow 2 52
  if biased = 2047 then none
  else if biased = 0 then some ⟨negative, fraction, -1074⟩
  else some ⟨negative, Nat.pow 2 52 + fraction, (biased : Int) - 1075⟩

/-- The magnitude as a fraction of natural numbers. -/
def ratio (d : Dyadic) : Nat × Nat :=
  if 0 ≤ d.exponent then (d.mantissa * Nat.pow 2 d.exponent.toNat, 1)
  else (d.mantissa, Nat.pow 2 (-d.exponent).toNat)

/-- The integer nearest to `scale` times the magnitude. -/
def round (d : Dyadic) (scale : Nat) (tie : Tie) : Nat :=
  roundDiv (d.ratio.1 * scale) d.ratio.2 tie

/-- The integer part, toward zero. -/
def truncate (d : Dyadic) : Int :=
  let whole : Int := d.ratio.1 / d.ratio.2
  if d.negative then -whole else whole

end Dyadic

/-- `value` held within `lo` and `hi`. -/
def clampInt (lo hi value : Int) : Int :=
  if value < lo then lo else if hi < value then hi else value

theorem le_clampInt {lo hi : Int} (value : Int) (h : lo ≤ hi) : lo ≤ clampInt lo hi value := by
  unfold clampInt
  split
  · omega
  · split <;> omega

theorem clampInt_le {lo hi : Int} (value : Int) (h : lo ≤ hi) : clampInt lo hi value ≤ hi := by
  unfold clampInt
  split
  · omega
  · split <;> omega

theorem clampInt_of_mem {lo hi value : Int} (h₁ : lo ≤ value) (h₂ : value ≤ hi) :
    clampInt lo hi value = value := by
  unfold clampInt
  split
  · omega
  · split <;> omega

/-- Natural numbers are clamped by `min` and `max`. -/
theorem toNat_clampInt {lo hi : Nat} (value : Nat) (h : lo ≤ hi) :
    (clampInt lo hi value).toNat = min hi (max lo value) := by
  unfold clampInt
  split
  · omega
  · split <;> omega

/-- The integer part of a double held within `lo` and `hi`. An infinity goes to its end of the
range; what is not a number counts as zero. -/
def clampTruncated (lo hi : Int) (x : Float) : Int :=
  match Dyadic.ofFloat? x with
  | some d => clampInt lo hi d.truncate
  | none => if 0 < x then hi else if x < 0 then lo else clampInt lo hi 0

end LightSync.Decimal
