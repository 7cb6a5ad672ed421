import LightSync.Json.Record

/-!
# Light entities of the home platform

A snapshot of what the home platform knows about one of its light entities. An entity stands for a
single light of the bridge or for one of its groups.
-/

namespace LightSync.Household

/-- A light entity as the home platform reports it. -/
structure Entity where
  entityId : String
  uniqueId : Option String
  name : String
  isOn : Bool
  /-- Brightness from 0 to 255. -/
  brightness : Option UInt8
  /-- Color temperature in mirek. -/
  colorTemp : Option UInt16
  /-- Does the entity stand for a group of the bridge? -/
  isBridgeGroup : Bool
deriving DecidableEq, Repr

namespace Entity

/-- An entity for a single light, off. -/
def light (entityId uniqueId name : String) : Entity :=
  ⟨entityId, some uniqueId, name, false, none, none, false⟩

/-- An entity for the bridge group of that name, off. -/
def bridgeGroup (entityId name : String) : Entity :=
  ⟨entityId, none, name, false, none, none, true⟩

/-- The entity, on with the given values. -/
def on (e : Entity) (brightness : Option UInt8) (colorTemp : Option UInt16) : Entity :=
  { e with isOn := true, brightness, colorTemp }

def toJson (e : Entity) : Json :=
  .obj [
    ("entity_id", .str e.entityId),
    ("unique_id", .ofOption .str e.uniqueId),
    ("name", .str e.name),
    ("is_on", .bool e.isOn),
    ("brightness", .ofOption (fun v => .ofNat v.toNat) e.brightness),
    ("color_temp", .ofOption (fun v => .ofNat v.toNat) e.colorTemp),
    ("is_bridge_group", .bool e.isBridgeGroup)]

def ofJson? (j : Json) : Option Entity := do
  let [entityId, uniqueId, name, isOn, brightness, colorTemp, isBridgeGroup] ←
    j.slots? ["entity_id", "unique_id", "name", "is_on", "brightness", "color_temp",
      "is_bridge_group"] | none
  return {
    entityId := ← entityId.required Json.string?
    uniqueId := ← uniqueId.optional Json.string?
    name := ← name.required Json.string?
    isOn := ← isOn.required Json.bool?
    brightness := ← brightness.optional Json.uint8?
    colorTemp := ← colorTemp.optional Json.uint16?
    isBridgeGroup := ← isBridgeGroup.required Json.bool? }

end Entity
end LightSync.Household
