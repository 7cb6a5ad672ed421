import LightSync.Household.Basic
import LightSync.Reconciler.Driving

/-!
# Answering to motion

On motion the desired values go straight to the lights of some entities, without the home platform
and without any change of tracking.
-/

namespace LightSync.Household

open Reconciler

variable {σ ε : Type} [Host σ] [Environment ε]

/-- Sends a command to the lights of entities one after the other, up to the first failure.
Entities that are unknown, or without known lights, are skipped. For each entity the host is asked
for it, then its lights are looked up, then the command is sent to them, and others may act before
each of these. -/
def sendToEntities (household : ε → Household σ) (command : Bridge.Command) (e : ε) :
    List String → ε × Except Failure Unit
  | [] => (e, .ok ())
  | entityId :: rest =>
    let e := Environment.interleave e
    match Host.entity? (household e).host entityId with
    | none =>
      let e := Environment.onSync e (·.note (.warn s!"Unknown entity {entityId}"))
      sendToEntities household command e rest
    | some entity =>
      let e := Environment.interleave e
      let (h, lights) := (household e).lightsOf entity
      let e := Environment.withSync e h.sync
      match lights with
      | none => sendToEntities household command e rest
      | some lights =>
        match Environment.sendDirect (Environment.interleave e) lights command with
        | (e, .ok ()) => sendToEntities household command e rest
        | (e, .error failure) => (e, .error failure)

/-- The service that answers to motion. -/
def motionOn (household : ε → Household σ) (e : ε) (call : ServiceCall LightParams) :
    ε × Except Failure Unit :=
  sendToEntities household ((household e).motionCommand call.params) e call.entityIds

end LightSync.Household
