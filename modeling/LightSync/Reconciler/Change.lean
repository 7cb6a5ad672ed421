import LightSync.Quantity.Brightness
import LightSync.Quantity.ColorTemp
import LightSync.Reconciler.State

/-!
# Changes of what is wanted

Everything that can be asked of the reconciliation. A change is made at once and only in the state;
steps carry it to the bridge later. Changes of a managed group are dropped while that group is not
known.

## Main definitions

- `Change`: the changes
- `Effect`: what a change did
- `State.change`: making a change
-/

namespace LightSync

namespace Cell

/-- Wants several more members. Says whether one of them is new. -/
def insertAll (c : Cell NameSet) (names : List String) : Cell NameSet × Bool :=
  names.foldl (fun (c, changed) name => ((c.insert name).1, (c.insert name).2 || changed))
    (c, false)

/-- Wants several members no longer. Says whether one of them was one. -/
def removeAll (c : Cell NameSet) (names : List String) : Cell NameSet × Bool :=
  names.foldl (fun (c, changed) name => ((c.remove name).1, (c.remove name).2 || changed))
    (c, false)

end Cell

namespace Reconciler

open Bridge

/-- Something that is asked of the reconciliation. -/
inductive Change where
  /-- A managed group shall have exactly these lights. -/
  | setLights (kind : GroupKind) (lights : NameSet)
  /-- A managed group shall have these lights too; empty numbers are skipped. -/
  | addLights (kind : GroupKind) (lights : List String)
  /-- A managed group shall have these lights no longer. -/
  | removeLights (kind : GroupKind) (lights : List String)
  /-- The desired brightness, moved into the bridge's range. -/
  | setBrightness (value : UInt8)
  /-- The desired color temperature, moved into the valid range. -/
  | setTemperature (mirek : UInt16)
  /-- Every light shall be turned off. -/
  | requestAllOff (fade : Option Fade)
  /-- Lights and groups shall be listed again. -/
  | requestReload
  /-- A loop shall run even though nothing changes. -/
  | runLoop
deriving DecidableEq

/-- What a change did. -/
inductive Effect where
  /-- The managed group is not known. -/
  | dropped (kind : GroupKind)
  /-- The state already was as asked. -/
  | none
  /-- A loop may have work now. -/
  | changed
deriving DecidableEq, Repr

namespace State

/-- Changes a managed group by a function that says whether it changed anything. -/
def changeGroup (s : State) (kind : GroupKind) (f : Group → Group × Bool) : State × Effect :=
  match s.group? kind with
  | some g => if (f g).2 then (s.modifyGroup kind fun g => (f g).1, .changed) else (s, .none)
  | none => (s, .dropped kind)

/-- Changes the lights of a managed group. -/
def changeLights (s : State) (kind : GroupKind) (f : Cell NameSet → Cell NameSet × Bool) :
    State × Effect :=
  s.changeGroup kind fun g => ({ g with lights := (f g.lights).1 }, (f g.lights).2)

def change (s : State) : Change → State × Effect
  | .setLights kind lights => s.changeLights kind (·.set lights)
  | .addLights kind lights => s.changeLights kind (·.insertAll (lights.filter (· != "")))
  | .removeLights kind lights => s.changeLights kind (·.removeAll lights)
  | .setBrightness value =>
    s.changeGroup .brightness fun g =>
      let result := g.brightness.set (Brightness.clamped value.toNat).value
      ({ g with brightness := result.1 }, result.2)
  | .setTemperature mirek =>
    s.changeGroup .temperature fun g =>
      let result := g.colorTemp.set (ColorTemp.clamped mirek.toNat).mirek
      ({ g with colorTemp := result.1 }, result.2)
  | .requestAllOff fade => ({ s with allOff := some fade }, .changed)
  | .requestReload => ({ s with reloadLights := true, reloadGroups := true }, .changed)
  | .runLoop => (s, .changed)

end State
end Reconciler
end LightSync
