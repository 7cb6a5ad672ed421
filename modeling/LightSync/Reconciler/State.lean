import LightSync.Bridge.Group
import LightSync.Bridge.Light
import LightSync.Quantity.Fade

/-!
# What is known and wanted

The state of the reconciliation: the lights and groups as last listed, which of the groups are the
two managed ones, what is wanted of them, and the requests that are pending. Both managed groups
may be the same group.

## Main definitions

- `State`
- `State.group?`, `State.modifyGroup`: a managed group
- `State.isReady`: both managed groups are known
- `State.empty`: before anything was listed
-/

namespace LightSync.Reconciler

open Bridge

/-- What is known of the bridge and wanted of it. -/
structure State where
  /-- The lights as last listed. -/
  lights : Option (List Light)
  /-- The groups as last listed, the managed ones with what is wanted of them. -/
  groups : Option (List Group)
  /-- Place of the group whose brightness is managed. -/
  brightnessGroup : Option Nat
  /-- Place of the group whose color temperature is managed. -/
  temperatureGroup : Option Nat
  reloadLights : Bool
  reloadGroups : Bool
  /-- Is an all-off pending, and with which fade? -/
  allOff : Option (Option Fade)
  /-- Is a loop running? -/
  looping : Bool
deriving DecidableEq

namespace State

def empty : State := ⟨none, none, none, none, false, false, none, false⟩

instance : Inhabited State := ⟨empty⟩

/-- The place of a managed group among the groups. -/
def place (s : State) : GroupKind → Option Nat
  | .brightness => s.brightnessGroup
  | .temperature => s.temperatureGroup

def group? (s : State) (kind : GroupKind) : Option Group := do
  let place ← s.place kind
  let groups ← s.groups
  groups[place]?

/-- Changes a managed group; nothing happens if it is not known. -/
def modifyGroup (s : State) (kind : GroupKind) (f : Group → Group) : State :=
  match s.place kind, s.groups with
  | some place, some groups => { s with groups := some (groups.modify place f) }
  | _, _ => s

/-- Are both managed groups known? -/
def isReady (s : State) : Bool :=
  (s.group? .brightness).isSome && (s.group? .temperature).isSome

/-- Lights in bridge order, none before the first listing. -/
def allLights (s : State) : List Light := s.lights.getD []

/-- Groups in bridge order, none before the first listing. -/
def allGroups (s : State) : List Group := s.groups.getD []

/-- The first light with a hardware id. -/
def light? (s : State) (uniqueId : String) : Option Light :=
  s.allLights.find? (·.uniqueId = uniqueId)

/-- The number of the first light with a hardware id. -/
def numberOfId? (s : State) (uniqueId : String) : Option String :=
  (s.light? uniqueId).map (·.number)

/-- The number of the first light with a name. -/
def numberOfName? (s : State) (name : String) : Option String :=
  (s.allLights.find? (·.name = name)).map (·.number)

/-- The lights of the first group with a name. -/
def groupLights? (s : State) (name : String) : Option NameSet :=
  (s.allGroups.find? (·.name = name)).map (·.lights.members)

end State
end LightSync.Reconciler
