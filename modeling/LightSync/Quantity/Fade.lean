import LightSync.Decimal.Layout
import LightSync.Json.Record

/-!
# Fades

A fade is how long a light takes to reach a new value. Home platforms count in seconds, the bridge
in tenths of a second. Seconds from outside are clamped into 0 to 6553; what is not a finite number
counts as no fade.

## Main definitions

- `Fade`: a fade in seconds
- `Fade.ofSeconds`, `Fade.ofDeciseconds`: from either unit
- `Fade.deciseconds`, `Fade.nanoseconds`: rounded to the bridge's unit and to a waiting time
-/

namespace LightSync

/-- A fade in seconds. -/
structure Fade where
  seconds : Float
deriving DecidableEq

namespace Fade

/-- The longest fade, in seconds. -/
def longest : Float := 6553.0

/-- A fade of some seconds, clamped into the valid range. -/
def ofSeconds (x : Float) : Fade :=
  if x.isFinite ∧ 0.0 ≤ x then if x ≤ longest then ⟨x⟩ else ⟨longest⟩ else ⟨0.0⟩

/-- A fade given in the bridge's unit. -/
def ofDeciseconds (tenths : UInt16) : Fade := ⟨tenths.toNat.toUInt64.toFloat / 10.0⟩

/-- The fade in the bridge's unit; half a tenth counts as a whole one. -/
def deciseconds (f : Fade) : UInt16 :=
  match Decimal.Dyadic.ofFloat? (f.seconds * 10.0) with
  | some d => if d.negative then 0 else .ofNat (min 65535 (d.round 1 .awayFromZero))
  | none => if 0.0 < f.seconds then 65535 else 0

/-- The fade as a waiting time in nanoseconds; half a nanosecond goes to the even neighbour. -/
def nanoseconds (f : Fade) : Nat :=
  match Decimal.Dyadic.ofFloat? f.seconds with
  | some d => if d.negative then 0 else d.round 1000000000 .toEven
  | none => 0

def toJson (f : Fade) : Json := .ofFloat f.seconds

def ofJson? (j : Json) : Option Fade := j.float?.map ofSeconds

def describe (f : Fade) : String :=
  s!"Transition \x7b seconds: {Decimal.writeFloat .log f.seconds} \x7d"

end Fade
end LightSync
