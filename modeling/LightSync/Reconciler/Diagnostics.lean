import LightSync.Reconciler.Basic

/-!
# Lookups and diagnostics

Lookups that report what they do not find, and a description of the whole state as JSON.
-/

namespace LightSync.Reconciler

open Bridge

/-- The numbers behind a hardware id; a miss is reported. -/
def lightsOfId (r : Reconciler) (uniqueId : String) : Reconciler × Option NameSet :=
  match r.state.numberOfId? uniqueId with
  | some number => (r, some (.singleton number))
  | none => (r.note (.warn s!"Light with unique id '{uniqueId}' not found"), none)

/-- The numbers behind the name of a light; a miss is reported. -/
def lightsOfName (r : Reconciler) (name : String) : Reconciler × Option NameSet :=
  match r.state.numberOfName? name with
  | some number => (r, some (.singleton number))
  | none => (r.note (.warn s!"Light with name '{name}' not found"), none)

/-- A managed group with its cells. -/
def describeGroup (g : Group) : Json :=
  .obj [
    ("number", .str g.number),
    ("name", .str g.name),
    ("lights", .str (g.lights.display NameSet.display)),
    ("brightness", .str g.showBrightness),
    ("color_temp", .str g.showColorTemp)]

/-- The state and the counters of the exchange log. -/
def diagnostics (r : Reconciler) : Json :=
  .obj [
    ("ready", .bool r.isReady),
    ("looping", .bool r.isLooping),
    ("lights", .ofOption (fun ls => .ofNat ls.length) r.state.lights),
    ("groups", .ofOption (fun gs => .ofNat gs.length) r.state.groups),
    ("brightness_group", .ofOption describeGroup (r.state.group? .brightness)),
    ("temperature_group", .ofOption describeGroup (r.state.group? .temperature)),
    ("history", r.log.summary.toJson)]

end LightSync.Reconciler
