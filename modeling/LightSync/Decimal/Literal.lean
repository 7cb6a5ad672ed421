import LightSync.Decimal.Dyadic

/-!
# Reading decimal literals

A literal is split by the reader into its digits and its exponent. Its significand is gathered in
a 64-bit word: once a further digit no longer fits, the digits left of the point only raise the
exponent and the others are dropped. A literal with neither point nor exponent is an integer if it
fits into 64 bits, signed or unsigned; every other one is a double, computed from the word by one
product or by quotients of doubles.

## Main definitions

- `Literal`: the parts of a literal
- `Number`: an integer or a double
- `Literal.number?`: the number that a literal stands for
-/

namespace LightSync.Decimal

/-- A number as JSON tells it apart: an integer or a double. -/
inductive Number where
  | int (value : Int)
  | float (value : Float)
deriving DecidableEq, Repr

structure Literal where
  negative : Bool
  /-- Values of the digits left of the point. -/
  whole : List Nat
  /-- Values of the digits right of the point, if there is a point. -/
  fraction : Option (List Nat)
  exponent : Option Int
deriving DecidableEq, Repr

/-- Greatest value of a 64-bit word. -/
def wordMax : Nat := Nat.pow 2 64 - 1

/-- Appends digits to a word for as long as they fit, and gives the digits that did not. -/
def gather (word : Nat) : List Nat → Nat × List Nat
  | [] => (word, [])
  | d :: rest => if word * 10 + d ≤ wordMax then gather (word * 10 + d) rest else (word, d :: rest)

/-- `x * 10 ^ power` in doubles, unless it is infinite. A power below `-308` is taken in steps of
`308`. -/
def scale (x : Float) (power : Int) : Option Float :=
  if 0 ≤ power then
    if power ≤ 308 then
      let y := x * Float.ofScientific 1 false power.toNat
      if y.isFinite then some y else none
    else if x == 0 then some x else none
  else if -308 ≤ power then some (x / Float.ofScientific 1 false (-power).toNat)
  else if x == 0 then some x
  else scale (x / Float.ofScientific 1 false 308) (power + 308)
termination_by power.natAbs

/-- The number a literal stands for; none if it is beyond the doubles. -/
def Literal.number? (l : Literal) : Option Number :=
  let (word, excess) := gather 0 l.whole
  let signed (x : Float) : Float := if l.negative then -x else x
  match l.fraction, l.exponent, excess with
  | none, none, [] =>
    if !l.negative then some (.int word)
    else if word = 0 ∨ Nat.pow 2 63 < word then some (.float (signed word.toUInt64.toFloat))
    else some (.int (-word))
  | fraction, exponent, _ =>
    let (word, dropped) := gather word (fraction.getD [])
    let kept := (fraction.getD []).length - dropped.length
    let power : Int := excess.length - kept + exponent.getD 0
    (scale word.toUInt64.toFloat power).map fun x => .float (signed x)

end LightSync.Decimal
