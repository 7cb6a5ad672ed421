import LightSync.Household.Call
import LightSync.Household.Entity
import LightSync.Failure

/-!
# The home platform

What is needed of the platform that knows the light entities and switches them: its entities, and a
call that it carries out or refuses.
-/

namespace LightSync.Household

inductive HostCall where
  | turnOn (entityId : String) (params : LightParams)
  | turnOff (entityId : String) (params : LightParams)
deriving DecidableEq

namespace HostCall

def entityId : HostCall → String
  | turnOn entityId _ => entityId
  | turnOff entityId _ => entityId

def params : HostCall → LightParams
  | turnOn _ params => params
  | turnOff _ params => params

end HostCall

/-- A home platform whose state is of type `σ`. -/
class Host (σ : Type) where
  entities : σ → List Entity
  entity? : σ → String → Option Entity
  /-- Carries out a call, or says why it does not. -/
  perform : σ → HostCall → σ × Except Failure Unit

end LightSync.Household
