import LightSync.Json.Record

/-!
# Power

Whether a light is asked to be on or off.
-/

namespace LightSync

inductive Power where
  | on
  | off
deriving DecidableEq, Repr

namespace Power

/-- The value of the bridge's `on` attribute. -/
def isOn : Power → Bool
  | on => true
  | off => false

def display : Power → String
  | on => "on"
  | off => "off"

def ofJson? (j : Json) : Option Power :=
  match j.unitVariant? with
  | some "On" => some on
  | some "Off" => some off
  | _ => none

def toJson : Power → Json
  | on => .str "On"
  | off => .str "Off"

end Power
end LightSync
