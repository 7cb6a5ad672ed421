import LightSync.Bridge.Listing

/-!
# Lights

A light has the number under which groups list it, a name, and a hardware id that the home platform
knows too.

## Main definitions

- `Light`
- `Light.ofListing`: the lights of a `/lights` listing
-/

namespace LightSync.Bridge

structure Light where
  number : String
  name : String
  uniqueId : String
deriving DecidableEq, Repr

namespace Light

def display (l : Light) : String := s!"Light {l.number} \"{l.name}\" {l.uniqueId}"

def toJson (l : Light) : Json :=
  .obj [("name", .str l.name), ("number", .str l.number), ("unique_id", .str l.uniqueId)]

def ofJson? (j : Json) : Option Light := do
  let [name, number, uniqueId] ← j.slots? ["name", "number", "unique_id"] | none
  return {
    name := ← name.required Json.string?
    number := ← number.required Json.string?
    uniqueId := ← uniqueId.required Json.string? }

/-- An entry of a listing of lights; the name and the hardware id may be missing. -/
def ofRecord? (number : String) (j : Json) : Option Light := do
  let [name, uniqueId] ← j.slots? ["name", "uniqueid"] | none
  return {
    number
    name := ← name.withDefault "" Json.string?
    uniqueId := ← uniqueId.withDefault "" Json.string? }

def ofListing (body : Json) : Except Failure (List Light) := listing "lights" ofRecord? number body

end Light
end LightSync.Bridge
