import LightSync.Bridge.Listing
import LightSync.Cell

/-!
# Groups

A group is a named set of lights. Two groups, distinguished by name, are managed: the lights of one
follow the desired brightness, those of the other the desired color temperature. All other groups
are kept as they were listed.

## Main definitions

- `GroupKind`: the two managed groups
- `Group`, with its cells and its paths
- `Group.resetTracking`: what a managed group is after it was loaded
- `Group.ofListing`: the groups of a `/groups` listing
-/

namespace LightSync.Bridge

/-- Which of the two managed groups. -/
inductive GroupKind where
  /-- Its lights follow the desired brightness. -/
  | brightness
  /-- Its lights follow the desired color temperature. -/
  | temperature
deriving DecidableEq, Repr

namespace GroupKind

def name : GroupKind → String
  | brightness => "brightness"
  | temperature => "temperature"

/-- Both kinds, in the order in which their memberships are brought up to date. -/
def all : List GroupKind := [brightness, temperature]

end GroupKind

/-- A group with what is wanted of it. -/
structure Group where
  number : String
  name : String
  lights : Cell NameSet
  brightness : Cell UInt8
  colorTemp : Cell UInt16
deriving DecidableEq

namespace Group

def listed (number name : String) (lights : NameSet) : Group :=
  ⟨number, name, .confirmed lights, .empty, .empty⟩

def path (g : Group) : String := "/groups/" ++ g.number

/-- The path of the group's commands. -/
def actionPath (g : Group) : String := "/groups/" ++ g.number ++ "/action"

/-- Nothing is known to be confirmed: an empty membership and zeros, all dirty. -/
def resetTracking (g : Group) : Group :=
  { g with
    lights := g.lights.reset ∅
    brightness := g.brightness.reset 0
    colorTemp := g.colorTemp.reset 0 }

def display (g : Group) : String :=
  s!"Group {g.number} \"{g.name}\" {g.lights.display NameSet.display}"

def showBrightness (g : Group) : String := g.brightness.display fun v => toString v.toNat

def showColorTemp (g : Group) : String := g.colorTemp.display fun v => toString v.toNat

/-- An entry of a listing of groups; the name and the lights may be missing. -/
def ofRecord? (number : String) (j : Json) : Option Group := do
  let [name, lights] ← j.slots? ["name", "lights"] | none
  return listed number (← name.withDefault "" Json.string?)
    (.ofList (← lights.withDefault [] Json.strings?))

def ofListing (body : Json) : Except Failure (List Group) :=
  listing "groups" ofRecord? number body

end Group
end LightSync.Bridge
