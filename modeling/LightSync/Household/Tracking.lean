import LightSync.Household.Call

/-!
# Which commands start or end tracking

A light follows the desired brightness (or color temperature) for as long as nobody asked it for a
value of its own. Turning on a light that was off starts tracking of each attribute that the
command does not give and ends that of each it gives. Turning on a light that is on, without any
value, starts both again; with values it ends tracking of those it gives and keeps the rest.
Turning off ends both.

## Main definitions

- `Tracking`, `Decision`
- `Decision.onTurnOn`, `Decision.onTurnOff`: the table
-/

namespace LightSync.Household

/-- What becomes of a light's membership in a managed group. -/
inductive Tracking where
  | start
  | stop
  | keep
deriving DecidableEq, Repr

def Tracking.name : Tracking → String
  | start => "start"
  | stop => "stop"
  | keep => "keep"

/-- What a command means for tracking, and how it is completed. -/
structure Decision where
  brightness : Tracking
  colorTemp : Tracking
  fillBrightness : Bool
  fillColorTemp : Bool
  /-- Does the command get the default fade if it has none? -/
  defaultTransition : Bool
deriving DecidableEq, Repr

namespace Decision

/-- For turning on a light that was on or off before. -/
def onTurnOn (wasOn : Bool) (params : LightParams) : Decision :=
  let givesBrightness := params.brightness.isSome
  let givesColorTemp := params.colorTemp.isSome
  match wasOn, givesBrightness || givesColorTemp with
  | true, false => ⟨.start, .start, true, true, false⟩
  | true, true =>
    ⟨if givesBrightness then .stop else .keep, if givesColorTemp then .stop else .keep,
      false, false, false⟩
  | false, _ =>
    ⟨if givesBrightness then .stop else .start, if givesColorTemp then .stop else .start,
      !givesBrightness, !givesColorTemp, true⟩

def onTurnOff : Decision := ⟨.stop, .stop, false, false, true⟩

end Decision
end LightSync.Household
