import LightSync.Bridge.Command
import LightSync.Bridge.Exchange
import LightSync.Reconciler.State
import LightSync.Settings

/-!
# The next request

One request at a time is planned from the state, in a fixed order of priority: a pending all-off,
loading the lights, loading the groups, the membership of a managed group, and last the values. The
values of both groups go out in one request if the groups have the same lights.

## Main definitions

- `Step`: the kinds of step
- `Plan`: a request with what is needed to take in its answer
- `State.plan`: what to do next
-/

namespace LightSync.Reconciler

open Bridge

inductive Step where
  | processCommands
  | loadLights
  | loadGroups
  | updateGroupMembership
  | updateGroupValues
deriving DecidableEq, Repr

def Step.name : Step → String
  | processCommands => "process_commands"
  | loadLights => "load_lights"
  | loadGroups => "load_groups"
  | updateGroupMembership => "update_group_membership"
  | updateGroupValues => "update_group_values"

/-- A request that a step is about to make. -/
inductive Plan where
  | allOff (command : Command)
  | loadLights
  | loadGroups
  | membership (kind : GroupKind) (path : String) (lights : NameSet)
  | values (path : String) (command : Command)
deriving DecidableEq

/-- The path of commands to every light. -/
def allLightsAction : String := "/groups/0/action"

namespace Plan

def step : Plan → Step
  | allOff _ => .processCommands
  | loadLights => .loadLights
  | loadGroups => .loadGroups
  | membership .. => .updateGroupMembership
  | values .. => .updateGroupValues

def request : Plan → Request
  | allOff command => .put allLightsAction command.toJson
  | loadLights => .get "/lights"
  | loadGroups => .get "/groups"
  | membership _ path lights => .put path (Roster.ofSet lights).toJson
  | values path command => .put path command.toJson

end Plan

namespace State

/-- A dirty membership that is not empty. -/
def planMembership (s : State) (kind : GroupKind) : Option Plan := do
  let g ← s.group? kind
  if g.lights.dirty && !g.lights.isEmpty then return .membership kind g.path g.lights.members
  else none

/-- A dirty value worth sending. Zero only stands for the unknown value after loading. -/
def pendingValue [DecidableEq α] (zero : α) (c : Cell α) (lights : Cell NameSet) : Option α :=
  if c.dirty && !lights.isEmpty then c.value.filter (· ≠ zero) else none

/-- The fade of a request for values: slow if one of the values it carries made a major change. -/
def fadeFor (settings : SyncSettings) (command : Command) (brightness temperature : Group) :
    Option UInt16 :=
  if command.bri.isSome && brightness.brightness.major
      || command.ct.isSome && temperature.colorTemp.major then
    some settings.majorTransition
  else none

/-- The values that are to be sent next, and where. -/
def planValues (s : State) (settings : SyncSettings) : Option Plan := do
  let brightness ← s.group? .brightness
  let temperature ← s.group? .temperature
  let bri := pendingValue 0 brightness.brightness brightness.lights
  let ct := pendingValue 0 temperature.colorTemp temperature.lights
  let (path, command) ← match bri, ct with
    | some bri, some ct =>
      if brightness.lights.value = temperature.lights.value then
        some (brightness.actionPath, { Command.empty with bri := some bri, ct := some ct })
      else some (brightness.actionPath, { Command.empty with bri := some bri })
    | some bri, none => some (brightness.actionPath, { Command.empty with bri := some bri })
    | none, some ct => some (temperature.actionPath, { Command.empty with ct := some ct })
    | none, none => none
  return .values path { command with transition := fadeFor settings command brightness temperature }

def allOffCommand (settings : SyncSettings) (fade : Option Fade) : Command :=
  let command := Command.empty.withPower .off
  match fade with
  | some fade => command.withFade fade
  | none => { command with transition := some settings.allOffTransition }

/-- What to do next, if anything. -/
def plan (s : State) (settings : SyncSettings) : Option Plan :=
  match s.allOff with
  | some fade => some (.allOff (allOffCommand settings fade))
  | none =>
    if s.lights.isNone || s.reloadLights then some .loadLights
    else if s.groups.isNone || s.reloadGroups then some .loadGroups
    else if s.isReady then
      ((s.planMembership .brightness).or (s.planMembership .temperature)).or (s.planValues settings)
    else none

end State
end LightSync.Reconciler
