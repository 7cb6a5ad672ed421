import LightSync.Proofs.OffTimers
import LightSync.Proofs.Tracking

/-!
# Turning an entity on

A command to turn on a known entity becomes one call of the home platform. Everything that the
caller gave is forwarded. For an excluded entity that is all; for another one missing values are
filled in where tracking starts, and a missing fade where the light was off. A command with a
brightness cancels the timer of its entity. Nothing else changes, but for the memberships of the
lights behind the entity.

## Main definitions

- `Group.besides`, `State.KeepsBesides`: what an operation on memberships leaves alone
- `Household.OnlyAsks`: a household that did nothing else than to ask the reconciler for changes
- `Household.sent`: the parameters that are forwarded
- `Household.Forwards`: what turning on an entity comes to
-/

namespace LightSync

open Bridge (Group GroupKind)
open Reconciler (State Change)

namespace Bridge.Group

/-- A group without its membership of some lights. -/
def besides (lights : NameSet) (g : Group) :
    String × String × Cell UInt8 × Cell UInt16 × (String → Prop) :=
  (g.number, g.name, g.brightness, g.colorTemp,
    fun light => light ∉ lights ∧ light ∈ g.lights.members)

end Bridge.Group

namespace Reconciler

namespace State

variable {s t : State} {lights : NameSet}

/-- All but the memberships of some lights is as it was. -/
structure KeepsBesides (s t : State) (lights : NameSet) : Prop where
  requests : s.SameRequests t
  place : ∀ kind, t.place kind = s.place kind
  groups : t.groups.map (·.map (·.besides lights)) = s.groups.map (·.map (·.besides lights))

theorem KeepsBesides.refl (s : State) (lights : NameSet) : s.KeepsBesides s lights :=
  ⟨.refl s, fun _ => rfl, rfl⟩

theorem KeepsBesides.trans {u : State} (first : s.KeepsBesides t lights)
    (second : t.KeepsBesides u lights) : s.KeepsBesides u lights where
  requests := first.requests.trans second.requests
  place kind := (second.place kind).trans (first.place kind)
  groups := second.groups.trans first.groups

theorem sameRequests_of_unclaimed (same : s.unclaimed = t.unclaimed) : s.SameRequests t where
  allOff := (congrArg State.allOff same :).symm
  lights := (congrArg State.lights same :).symm
  reloadLights := (congrArg State.reloadLights same :).symm
  groups := (congrArg (fun s => Option.isNone s.groups) same :).symm
  reloadGroups := (congrArg State.reloadGroups same :).symm

theorem KeepsBesides.congr {u : State} (h : s.KeepsBesides t lights)
    (same : t.unclaimed = u.unclaimed) : s.KeepsBesides u lights where
  requests := h.requests.trans (sameRequests_of_unclaimed same)
  place kind := (place_congr same kind).symm.trans (h.place kind)
  groups := groups_congr same ▸ h.groups

end State

theorem changeAll_append (r : Reconciler) (canRun : Bool) (first second : List Change) :
    r.changeAll canRun (first ++ second) = (r.changeAll canRun first).changeAll canRun second :=
  List.foldl_append

end Reconciler

namespace Household

variable {σ : Type} (h : Household σ)

/-! ## Households that ask for changes -/

/-- A household that did nothing else than to ask the reconciler for some changes, but for what is
recorded. -/
structure OnlyAsks (h h' : Household σ) (cs : List Change) : Prop where
  rest : h' = { h with sync := h'.sync }
  sync : h'.sync.silent = (h.sync.changeAll true cs).silent

theorem OnlyAsks.refl (h : Household σ) : h.OnlyAsks h [] := ⟨rfl, rfl⟩

theorem OnlyAsks.trans {h h' h'' : Household σ} {cs cs' : List Change}
    (first : h.OnlyAsks h' cs) (second : h'.OnlyAsks h'' cs') : h.OnlyAsks h'' (cs ++ cs') where
  rest := by
    rw [second.rest, first.rest]
  sync := by
    rw [second.sync, Reconciler.changeAll_append]
    exact Reconciler.silent_changeAll_congr first.sync true cs'

theorem onlyAsks_note (line : Line) : h.OnlyAsks (h.note line) [] := ⟨rfl, rfl⟩

theorem onlyAsks_change (c : Change) : h.OnlyAsks (h.change c) [c] := ⟨rfl, rfl⟩

theorem onlyAsks_lightsOf (e : Entity) : h.OnlyAsks (h.lightsOf e).1 [] := by
  unfold lightsOf
  split
  · exact .refl h
  · cases e.uniqueId with
    | none => exact .refl h
    | some uniqueId =>
      refine ⟨rfl, ?_⟩
      simp only [Reconciler.lightsOfId]
      cases h.sync.state.numberOfId? uniqueId <;> rfl

theorem onlyAsks_track (kind : GroupKind) (t : Tracking) (lights : NameSet) :
    h.OnlyAsks (h.track kind t lights) (t.changes kind lights) := by
  cases t with
  | start => exact h.onlyAsks_change _
  | stop => exact h.onlyAsks_change _
  | keep => exact .refl h

theorem onlyAsks_applyTracking (lights : Option NameSet) (d : Decision) :
    h.OnlyAsks (h.applyTracking lights d) (d.changes lights) := by
  cases lights with
  | none => exact .refl h
  | some lights => exact (h.onlyAsks_track ..).trans (onlyAsks_track ..)

/-- The parameters with which an entity is turned on: those of the caller, completed unless the
entity is excluded. -/
def sent (entityId : String) (e : Entity) (params : LightParams) : LightParams :=
  if h.settings.isAutomatic entityId then h.complete params (.onTurnOn e.isOn params) else params

theorem sent_of_automatic {entityId : String} (automatic : h.settings.isAutomatic entityId = true)
    (e : Entity) (params : LightParams) :
    h.sent entityId e params = h.complete params (.onTurnOn e.isOn params) := if_pos automatic

theorem sent_of_excluded {entityId : String} (excluded : h.settings.isAutomatic entityId = false)
    (e : Entity) (params : LightParams) : h.sent entityId e params = params :=
  if_neg (Bool.eq_false_iff.1 excluded)

/-- A value is filled in where tracking starts, and a fade where the light was off. -/
theorem complete_onTurnOn (wasOn : Bool) (params : LightParams) :
    let d := Decision.onTurnOn wasOn params
    h.complete params d =
      ⟨if d.tracking .brightness = .start then some h.desired.brightness else params.brightness,
        if d.tracking .temperature = .start then some h.desired.temperature else params.colorTemp,
        if wasOn then params.transition else params.transition.or h.settings.onFade⟩ := by
  obtain ⟨brightness, colorTemp, transition⟩ := params
  cases brightness <;> cases colorTemp <;> cases wasOn <;> rfl

theorem automate_eq (entityId : String) (e : Entity) (params : LightParams) :
    let d := Decision.onTurnOn e.isOn params
    h.OnlyAsks (h.automate entityId e params).1 (d.changes (h.sync.state.lightsOf? e)) ∧
      (h.automate entityId e params).2 = h.complete params d := by
  intro d
  have looked := h.onlyAsks_lightsOf e
  refine ⟨?_, ?_⟩
  · rw [← (h.lightsOf_eq e).1]
    exact (looked.trans (onlyAsks_note ..)).trans (onlyAsks_applyTracking ..)
  · have same : (h.automate entityId e params).2 = (h.lightsOf e).1.complete params d := rfl
    rw [same, looked.rest]
    rfl

/-! ## What turning on comes to -/

variable [Host σ]

/-- Turning on a known entity asks for the changes that its decision says, cancels the timer of the
entity if a brightness is sent, and makes one call. -/
theorem turnOn_of_known {entityId : String} {e : Entity}
    (known : Host.entity? h.host entityId = some e) (params : LightParams) :
    let sent := h.sent entityId e params
    ∃ sync : Reconciler,
      sync.silent = (h.sync.changeAll true (h.asked (.turnOn entityId params))).silent ∧
      h.turnOn entityId params = { h with
        sync
        timers := if sent.brightness.isSome then h.timers.erase entityId else h.timers }.perform
          (.turnOn entityId sent) := by
  intro sent
  -- The timer is looked for in a household that may have asked for changes before.
  have cancel (h' : Household σ) : ∃ sync : Reconciler, sync.silent = h'.sync.silent ∧
      (if sent.brightness.isSome then (h'.cancelTimer entityId).1 else h') = { h' with
        sync
        timers := if sent.brightness.isSome then h'.timers.erase entityId else h'.timers } := by
    split
    · exact ⟨_, Reconciler.silent_noteAll .., rfl⟩
    · exact ⟨_, rfl, rfl⟩
  simp only [asked, HostCall.entityId, known, turnOn]
  by_cases automatic : h.settings.isAutomatic entityId = true
  · obtain ⟨asks, completed⟩ := h.automate_eq entityId e params
    have is : (h.automate entityId e params).2 = sent := completed.trans (if_pos automatic).symm
    simp only [if_pos automatic, is]
    obtain ⟨sync, same, cancelled⟩ := cancel (h.automate entityId e params).1
    refine ⟨sync, same.trans asks.sync, ?_⟩
    rw [cancelled, asks.rest]
  · have is : params = sent := (if_neg automatic).symm
    simp only [if_neg automatic]
    obtain ⟨sync, same, cancelled⟩ := cancel h
    refine ⟨sync, same, ?_⟩
    rw [is, cancelled]

end Household
end LightSync
