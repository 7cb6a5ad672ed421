import LightSync.Household.Basic
import LightSync.Proofs.Operations

/-!
# What commands ask of the reconciler

A command to an entity asks the reconciler for changes of the two memberships and for nothing else:
those that its decision about tracking says, for the lights behind the entity. An entity that is
not known, or has no known lights, asks for none, and neither does turning on an excluded one.

## Main definitions

- `State.lightsOf?`: the lights behind an entity
- `Decision.changes`: the changes that a decision asks for
- `Household.Becomes`: a household that wants the same, and asked for some changes
- `Household.obey`, `Household.asked`: carrying out a command, and the changes that it asks for
-/

namespace LightSync

open Reconciler (Change)
open Bridge (GroupKind)

/-- The lights behind an entity, as far as they are known. -/
def Reconciler.State.lightsOf? (s : Reconciler.State) (e : Household.Entity) : Option NameSet :=
  if e.isBridgeGroup then s.groupLights? e.name
  else (e.uniqueId.bind s.numberOfId?).map .singleton

namespace Household

/-- The change of a membership that tracking asks for. -/
def Tracking.changes (t : Tracking) (kind : GroupKind) (lights : NameSet) : List Change :=
  match t with
  | .start => [.addLights kind lights.toList]
  | .stop => [.removeLights kind lights.toList]
  | .keep => []

namespace Decision

/-- What a decision says about a membership. -/
def tracking (d : Decision) : GroupKind → Tracking
  | .brightness => d.brightness
  | .temperature => d.colorTemp

/-- The changes that a decision asks for; none for lights that are not known. -/
def changes (d : Decision) : Option NameSet → List Change
  | some lights =>
    (d.tracking .brightness).changes .brightness lights ++
      (d.tracking .temperature).changes .temperature lights
  | none => []

end Decision

variable {σ : Type} (h : Household σ)

theorem state_noteAll (lines : List Line) : (h.noteAll lines).sync.state = h.sync.state :=
  Reconciler.state_of_silent (Reconciler.silent_noteAll h.sync lines)

/-- Looking up the lights behind an entity does nothing but report a miss. -/
theorem lightsOf_eq (e : Entity) :
    (h.lightsOf e).2 = h.sync.state.lightsOf? e ∧
      (h.lightsOf e).1.sync.state = h.sync.state := by
  unfold lightsOf Reconciler.State.lightsOf?
  by_cases group : e.isBridgeGroup = true
  · rw [if_pos group, if_pos group]
    exact ⟨rfl, rfl⟩
  · rw [if_neg group, if_neg group]
    cases e.uniqueId with
    | none => exact ⟨rfl, rfl⟩
    | some uniqueId =>
      simp only [Reconciler.lightsOfId, Option.bind_some]
      cases h.sync.state.numberOfId? uniqueId with
      | none => exact ⟨rfl, rfl⟩
      | some number => exact ⟨rfl, rfl⟩

/-! ## Households that want the same -/

/-- A household that wants the same as before, after the reconciler was asked for some changes. -/
structure Becomes (h h' : Household σ) (cs : List Change) : Prop where
  settings : h'.settings = h.settings
  desired : h'.desired = h.desired
  /-- The claim of a loop apart, the changes are all that happened to the state. -/
  state : h'.sync.state.unclaimed = (h.sync.state.changes cs).unclaimed

theorem Becomes.refl (h : Household σ) : h.Becomes h [] := ⟨rfl, rfl, rfl⟩

theorem Becomes.trans {h h' h'' : Household σ} {cs cs' : List Change} (first : h.Becomes h' cs)
    (second : h'.Becomes h'' cs') : h.Becomes h'' (cs ++ cs') where
  settings := second.settings.trans first.settings
  desired := second.desired.trans first.desired
  state := by
    rw [second.state, Reconciler.State.changes_append]
    exact Reconciler.State.changes_congr first.state cs'

theorem Becomes.quietly {h h' h'' : Household σ} {cs : List Change} (first : h.Becomes h' cs)
    (second : h'.Becomes h'' []) : h.Becomes h'' cs :=
  List.append_nil cs ▸ first.trans second

theorem becomes_note (line : Line) : h.Becomes (h.note line) [] := ⟨rfl, rfl, rfl⟩

theorem becomes_noteAll (lines : List Line) : h.Becomes (h.noteAll lines) [] :=
  ⟨rfl, rfl, congrArg Reconciler.State.unclaimed (h.state_noteAll lines)⟩

theorem becomes_change (c : Change) : h.Becomes (h.change c) [c] :=
  ⟨rfl, rfl, Reconciler.unclaimed_change h.sync true c⟩

theorem becomes_lightsOf (e : Entity) : h.Becomes (h.lightsOf e).1 [] where
  settings := by
    unfold lightsOf
    split
    · rfl
    · cases e.uniqueId <;> rfl
  desired := by
    unfold lightsOf
    split
    · rfl
    · cases e.uniqueId <;> rfl
  state := congrArg Reconciler.State.unclaimed (h.lightsOf_eq e).2

theorem becomes_track (kind : GroupKind) (t : Tracking) (lights : NameSet) :
    h.Becomes (h.track kind t lights) (t.changes kind lights) := by
  cases t with
  | start => exact h.becomes_change _
  | stop => exact h.becomes_change _
  | keep => exact .refl h

theorem becomes_applyTracking (lights : Option NameSet) (d : Decision) :
    h.Becomes (h.applyTracking lights d) (d.changes lights) := by
  cases lights with
  | none => exact .refl h
  | some lights => exact (h.becomes_track ..).trans (becomes_track ..)

theorem becomes_automate (entityId : String) (e : Entity) (params : LightParams) :
    h.Becomes (h.automate entityId e params).1
      ((Decision.onTurnOn e.isOn params).changes (h.sync.state.lightsOf? e)) := by
  rw [← (h.lightsOf_eq e).1]
  exact ((h.becomes_lightsOf e).quietly (becomes_note ..)).trans (becomes_applyTracking ..)

theorem becomes_cancelTimer (entityId : String) : h.Becomes (h.cancelTimer entityId).1 [] :=
  have noted := h.becomes_noteAll (h.timers.cancelLines entityId)
  ⟨noted.settings, noted.desired, noted.state⟩

variable [Host σ]

/-- Carries out a command. -/
def obey (h : Household σ) : HostCall → Household σ × Except Failure Unit
  | .turnOn entityId params => h.turnOn entityId params
  | .turnOff entityId params => h.turnOff entityId params

/-- The changes that a command asks for. -/
def asked (h : Household σ) (call : HostCall) : List Change :=
  match Host.entity? h.host call.entityId with
  | none => []
  | some e =>
    let lights := h.sync.state.lightsOf? e
    match call with
    | .turnOn entityId params =>
      if h.settings.isAutomatic entityId then (Decision.onTurnOn e.isOn params).changes lights
      else []
    | .turnOff _ _ => Decision.onTurnOff.changes lights

theorem becomes_perform (call : HostCall) : h.Becomes (h.perform call).1 [] := ⟨rfl, rfl, rfl⟩

theorem becomes_turnOn (entityId : String) (params : LightParams) :
    h.Becomes (h.turnOn entityId params).1 (h.asked (.turnOn entityId params)) := by
  simp only [asked, turnOn, HostCall.entityId]
  cases Host.entity? h.host entityId with
  | none => exact .refl h
  | some e =>
    have finish (h' : Household σ) (params : LightParams) : h'.Becomes
        ((if params.brightness.isSome then (h'.cancelTimer entityId).1 else h').perform
          (.turnOn entityId params)).1 [] := by
      split
      · exact (h'.becomes_cancelTimer entityId).trans (becomes_perform ..)
      · exact h'.becomes_perform _
    by_cases automatic : h.settings.isAutomatic entityId = true
    · simp only [if_pos automatic]
      exact (h.becomes_automate entityId e params).quietly (finish ..)
    · simp only [if_neg automatic]
      exact finish h params

theorem becomes_turnOff (entityId : String) (params : LightParams) :
    h.Becomes (h.turnOff entityId params).1 (h.asked (.turnOff entityId params)) := by
  simp only [asked, turnOff, HostCall.entityId]
  cases Host.entity? h.host entityId with
  | none => exact .refl h
  | some e =>
    simp only
    rw [← (h.lightsOf_eq e).1]
    exact (((h.becomes_lightsOf e).trans (becomes_applyTracking ..)).quietly
      (becomes_note ..)).quietly (becomes_perform ..)

/-- A command asks the reconciler for what it says about tracking. -/
theorem becomes_obey (call : HostCall) : h.Becomes (h.obey call).1 (h.asked call) := by
  cases call with
  | turnOn entityId params => exact h.becomes_turnOn entityId params
  | turnOff entityId params => exact h.becomes_turnOff entityId params

end Household
end LightSync
