import LightSync.Quantity.ColorTemp
import LightSync.Quantity.Fade

/-!
# Calls from the home platform

The parameters of the services that the home platform calls. Values from outside are clamped when a
record is built or decoded, so that nothing later has to check them again.

## Main definitions

- `LightParams`: what a light is turned on or off with
- `DimParams`: what lights are dimmed with
- `ServiceCall`: the entities of a call and its parameters
-/

namespace LightSync.Household

/-- A brightness of the home platform: an integer clamped into 0 to 255. -/
def clampHostBrightness (value : Int) : UInt8 := .ofNat (Decimal.clampInt 0 255 value).toNat

/-- A brightness written as any number. -/
def brightness? (j : Json) : Option UInt8 :=
  j.float?.map fun x => clampHostBrightness (Decimal.clampTruncated 0 255 x)

/-- A color temperature written as any number. -/
def colorTemp? (j : Json) : Option UInt16 :=
  j.float?.map fun x => (ColorTemp.clamped (Decimal.clampTruncated 153 454 x)).mirek

/-- What a light is turned on or off with. -/
structure LightParams where
  brightness : Option UInt8
  colorTemp : Option UInt16
  transition : Option Fade
deriving DecidableEq

namespace LightParams

def none : LightParams := ⟨.none, .none, .none⟩

instance : Inhabited LightParams := ⟨none⟩

/-- From values that nobody has checked. -/
def ofRaw (brightness colorTemp : Option Int) (transition : Option Float) : LightParams :=
  ⟨brightness.map clampHostBrightness, colorTemp.map fun v => (ColorTemp.clamped v).mirek,
    transition.map .ofSeconds⟩

def withBrightness (p : LightParams) (v : UInt8) : LightParams := { p with brightness := some v }

def withColorTemp (p : LightParams) (v : UInt16) : LightParams :=
  { p with colorTemp := some (ColorTemp.clamped v.toNat).mirek }

def withTransition (p : LightParams) (f : Fade) : LightParams := { p with transition := some f }

def toJson (p : LightParams) : Json :=
  .sparse [
    ("brightness", p.brightness.map fun v => .ofNat v.toNat),
    ("color_temp", p.colorTemp.map fun v => .ofNat v.toNat),
    ("transition", p.transition.map Fade.toJson)]

def ofJson? (j : Json) : Option LightParams := do
  let [brightness, colorTemp, transition] ←
    j.slots? ["brightness", "color_temp", "transition"] | failure
  return {
    brightness := ← brightness.withDefault .none (Json.nullable? brightness?)
    colorTemp := ← colorTemp.withDefault .none (Json.nullable? colorTemp?)
    transition := ← transition.withDefault .none (Json.nullable? Fade.ofJson?) }

def describeOption (describe : α → String) : Option α → String
  | .none => "None"
  | some a => s!"Some({describe a})"

def describe (p : LightParams) : String :=
  let brightness := describeOption (fun (v : UInt8) => toString v.toNat) p.brightness
  let colorTemp := describeOption (fun (v : UInt16) => toString v.toNat) p.colorTemp
  let transition := describeOption Fade.describe p.transition
  s!"LightParams \x7b brightness: {brightness}, color_temp: {colorTemp}, " ++
    s!"transition: {transition} \x7d"

end LightParams

structure DimParams where
  /-- Color temperature to dim to; the desired one if there is none. -/
  colorTemp : Option UInt16
  dimTransition : Option Fade
  /-- How long after dimming the light is turned off. -/
  offAfter : Option Fade
  offTransition : Option Fade
deriving DecidableEq

namespace DimParams

def toJson (p : DimParams) : Json :=
  .sparse [
    ("color_temp", p.colorTemp.map fun v => .ofNat v.toNat),
    ("dim_transition", p.dimTransition.map Fade.toJson),
    ("off_after", p.offAfter.map Fade.toJson),
    ("off_transition", p.offTransition.map Fade.toJson)]

def ofJson? (j : Json) : Option DimParams := do
  let [colorTemp, dimTransition, offAfter, offTransition] ←
    j.slots? ["color_temp", "dim_transition", "off_after", "off_transition"] | failure
  return {
    colorTemp := ← colorTemp.withDefault .none (Json.nullable? colorTemp?)
    dimTransition := ← dimTransition.withDefault .none (Json.nullable? Fade.ofJson?)
    offAfter := ← offAfter.withDefault .none (Json.nullable? Fade.ofJson?)
    offTransition := ← offTransition.withDefault .none (Json.nullable? Fade.ofJson?) }

end DimParams

structure ServiceCall (α : Type) where
  entityIds : List String
  params : α
deriving DecidableEq

namespace ServiceCall

variable {α : Type}

def toJson (encode : α → Json) (c : ServiceCall α) : Json :=
  .obj [("entity_ids", .strings c.entityIds), ("params", encode c.params)]

def ofJson? (decode : Json → Option α) (j : Json) : Option (ServiceCall α) := do
  let [entityIds, params] ← j.slots? ["entity_ids", "params"] | none
  return {
    entityIds := ← entityIds.required Json.strings?
    params := ← params.required decode }

end ServiceCall
end LightSync.Household
