import LightSync.NameSet
import LightSync.Quantity.Brightness
import LightSync.Quantity.ColorTemp
import LightSync.Quantity.Fade
import LightSync.Quantity.Power

/-!
# Request bodies

A command changes attributes of a group or a light; only the attributes it sets are written. A
roster replaces the membership of a group.

## Main definitions

- `Command`: power, brightness, color temperature and fade
- `Command.isValid`: does it change anything?
- `Roster`: a membership
-/

namespace LightSync.Bridge

/-- The attributes to set. The fade is in tenths of a second. -/
structure Command where
  on : Option Bool
  bri : Option UInt8
  ct : Option UInt16
  transition : Option UInt16
deriving DecidableEq, Repr

namespace Command

def empty : Command := ⟨none, none, none, none⟩

instance : Inhabited Command := ⟨empty⟩

/-- Does the command change a light? A fade alone does not. -/
def isValid (c : Command) : Bool := c.on.isSome || c.bri.isSome || c.ct.isSome

def withPower (c : Command) (p : Power) : Command := { c with on := some p.isOn }

def withBrightness (c : Command) (b : Brightness) : Command := { c with bri := some b.value }

def withColorTemp (c : Command) (t : ColorTemp) : Command := { c with ct := some t.mirek }

def withFade (c : Command) (f : Fade) : Command := { c with transition := some f.deciseconds }

def toJson (c : Command) : Json :=
  .sparse [
    ("on", c.on.map .bool),
    ("bri", c.bri.map fun v => .ofNat v.toNat),
    ("ct", c.ct.map fun v => .ofNat v.toNat),
    ("transitiontime", c.transition.map fun v => .ofNat v.toNat)]

def ofJson? (j : Json) : Option Command := do
  let [on, bri, ct, transition] ← j.slots? ["on", "bri", "ct", "transitiontime"] | none
  return {
    on := ← on.optional Json.bool?
    bri := ← bri.optional Json.uint8?
    ct := ← ct.optional Json.uint16?
    transition := ← transition.optional Json.uint16? }

end Command

/-- A membership, in the order in which it is written. -/
structure Roster where
  lights : List String
deriving DecidableEq, Repr

namespace Roster

def ofSet (lights : NameSet) : Roster := ⟨lights.toList⟩

def toJson (r : Roster) : Json := .obj [("lights", .strings r.lights)]

def ofJson? (j : Json) : Option Roster := do
  let [lights] ← j.slots? ["lights"] | none
  return ⟨← lights.required Json.strings?⟩

end Roster
end LightSync.Bridge
