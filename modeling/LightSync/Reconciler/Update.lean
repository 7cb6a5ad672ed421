import LightSync.Bridge.Reply
import LightSync.Reconciler.Plan

/-!
# Taking in an answer

An answer is first read into an update, without looking at the state: this is where a step fails.
The update is then made to the state as it is at that moment, which may have changed while the
request was under way. A confirmation only cleans a cell that still holds the confirmed value.

## Main definitions

- `Update`: what an answer says
- `Plan.read`: the update in the answer to a planned request
- `State.update`: making an update
-/

namespace LightSync.Reconciler

open Bridge

/-- What an answer says. -/
inductive Update where
  /-- Every light was told to turn off. -/
  | allOff
  | lights (lights : List Light)
  | groups (groups : List Group)
  /-- The membership that the bridge confirms for the group of that kind at that path. -/
  | membership (kind : GroupKind) (path : String) (confirmed : Option NameSet)
  /-- The values that the bridge confirms. -/
  | values (bri : Option UInt8) (ct : Option UInt16)
deriving DecidableEq

/-- The membership that a reply confirms for a group path. -/
def confirmedMembership (reply : Reply) (path : String) : Option NameSet := do
  let value ← reply.acknowledged (path ++ "/lights")
  let lights ← value.strings?
  return .ofList lights

/-- The brightness that a reply confirms for a command path. -/
def confirmedBrightness (reply : Reply) (path : String) : Option UInt8 :=
  (reply.acknowledged (path ++ "/bri")).bind Json.uint8?

/-- The color temperature that a reply confirms for a command path. -/
def confirmedColorTemp (reply : Reply) (path : String) : Option UInt16 :=
  (reply.acknowledged (path ++ "/ct")).bind Json.uint16?

/-- The reply in the body of a response; a body that is none acknowledges nothing. -/
def replyOf (response : Response) : Reply := (Reply.ofBody? response.body).getD .empty

/-- What the answer to a planned request says. An all-off takes every answer, all else needs
status 200. -/
def Plan.read (plan : Plan) (answer : Answer) : Except Failure Update :=
  match plan with
  | .allOff _ => do
    let _ ← answer
    return .allOff
  | .loadLights => do
    let response ← answer.accepted plan.request
    return .lights (← Light.ofListing response.body)
  | .loadGroups => do
    let response ← answer.accepted plan.request
    return .groups (← Group.ofListing response.body)
  | .membership kind path _ => do
    let response ← answer.accepted plan.request
    return .membership kind path (confirmedMembership (replyOf response) path)
  | .values path _ => do
    let response ← answer.accepted plan.request
    let reply := replyOf response
    return .values (confirmedBrightness reply path) (confirmedColorTemp reply path)

namespace State

/-- Empties a managed group: no lights, and nothing to be sent about that. -/
def emptyGroup (s : State) (kind : GroupKind) : State :=
  s.modifyGroup kind fun g => { g with lights := (g.lights.reset ∅).clean }

/-- The groups as listed, with the tracking of the managed ones begun anew. -/
def resetManaged (groups : List Group) (place : Option Nat) : List Group :=
  match place with
  | some place => groups.modify place Group.resetTracking
  | none => groups

/-- Takes a confirmed value into a cell. -/
def confirm [DecidableEq α] (confirmed : Option α) (c : Cell α) : Cell α :=
  match confirmed with
  | some value => (c.acknowledge value).1
  | none => c

/-- Would the group of that kind take the membership as confirmed at that path? -/
def confirmsMembership (s : State) (kind : GroupKind) (path : String)
    (confirmed : Option NameSet) : Bool :=
  match s.group? kind, confirmed with
  | some g, some confirmed => g.path = path && (g.lights.acknowledge confirmed).2
  | _, _ => false

def update (s : State) (settings : SyncSettings) : Update → State
  | .allOff => { (s.emptyGroup .brightness).emptyGroup .temperature with allOff := none }
  | .lights lights => { s with lights := some lights, reloadLights := false }
  | .groups groups =>
    let brightness := groups.findIdx? (·.name = settings.brightnessGroup)
    let temperature := groups.findIdx? (·.name = settings.temperatureGroup)
    { s with
      groups := some (resetManaged (resetManaged groups brightness) temperature)
      brightnessGroup := brightness
      temperatureGroup := temperature
      reloadGroups := false }
  | .membership kind path confirmed =>
    s.modifyGroup kind fun g =>
      if g.path = path then { g with lights := confirm confirmed g.lights } else g
  | .values bri ct =>
    let s := s.modifyGroup .brightness fun g => { g with brightness := confirm bri g.brightness }
    s.modifyGroup .temperature fun g => { g with colorTemp := confirm ct g.colorTemp }

end State
end LightSync.Reconciler
