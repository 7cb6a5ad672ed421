import LightSync.Proofs.LastListing

/-!
# The lights that are known

The lights that the state knows are those of a listing, and only another listing replaces them. So
lights that were listed once stay known, and they are in bridge order after every run.

## Main results

- `State.lights_of_plan_loadGroups`: groups are listed when the lights are known
- `Scene.lights_next`: what an event does to the lights
- `Scene.lights_ascending_run`: the lights are in bridge order
-/

namespace LightSync

open Bridge

namespace Bridge.Light

theorem number_of_ofRecord? {number : String} {record : Json} {l : Light}
    (h : ofRecord? number record = some l) : l.number = number := by
  unfold ofRecord? at h
  simp only [Option.bind_eq_bind, Option.bind_eq_some_iff] at h
  obtain ⟨slots, -, h⟩ := h
  split at h
  · obtain ⟨name, -, rest⟩ := Option.bind_eq_some_iff.1 h
    obtain ⟨uniqueId, -, same⟩ := Option.bind_eq_some_iff.1 rest
    cases same
    rfl
  · cases h

end Bridge.Light

namespace Reconciler

namespace State

variable {s : State} {settings : SyncSettings}

theorem lights_change (s : State) (c : Change) : (s.change c).1.lights = s.lights := by
  rcases s.change_cases c with ⟨kind, f, -, made⟩ | ⟨same, -⟩ | ⟨-, -, request⟩
  · rw [made, lights_modifyGroup]
  · rw [same]
  · rcases request with ⟨fade, rfl⟩ | rfl | rfl <;> rfl

theorem lights_changes (s : State) (cs : List Change) : (s.changes cs).lights = s.lights := by
  induction cs generalizing s with
  | nil => rfl
  | cons c rest ih => exact (ih _).trans (s.lights_change c)

theorem lights_update {u : Update} (other : ∀ lights, u ≠ .lights lights) (s : State)
    (settings : SyncSettings) : (s.update settings u).lights = s.lights := by
  cases u with
  | allOff => exact (lights_modifyGroup ..).trans (lights_modifyGroup ..)
  | lights lights => exact absurd rfl (other lights)
  | groups groups => rfl
  | membership => exact lights_modifyGroup ..
  | values => exact (lights_modifyGroup ..).trans (lights_modifyGroup ..)

/-- An answer that is taken in keeps the lights, or lists them anew. -/
theorem lights_take (s : State) (settings : SyncSettings) (plan : Plan) (answer : Answer)
    (heard : List Change) :
    (s.take settings plan answer heard).lights = s.lights ∨
      ∃ body lights, Light.ofListing body = .ok lights ∧
        (s.take settings plan answer heard).lights = some lights := by
  unfold take
  cases read : plan.read answer with
  | error failure => exact .inl rfl
  | ok u =>
    have after : (if u.loads && (s.update settings u).isReady then
        (s.update settings u).changes heard else s.update settings u).lights =
          (s.update settings u).lights := by
      split
      · exact lights_changes _ heard
      · rfl
    simp only [after]
    cases Plan.read_eq_ok_iff.1 read with
    | lights ok listed => exact .inr ⟨_, _, listed, rfl⟩
    | allOff | groups | membership | values =>
      refine .inl (lights_update (fun lights same => ?_) s settings)
      cases same

/-- Groups are listed only when the lights are known and are not to be listed again. -/
theorem lights_of_plan_loadGroups (plans : s.plan settings = some .loadGroups) :
    s.lights.isSome = true ∧ s.reloadLights = false := by
  rcases s.plan_cases settings with
    ⟨_, -, other⟩ | ⟨-, -, other⟩ | ⟨-, known, fresh, -⟩ | ⟨listed, -⟩
  · exact nomatch plans.symm.trans other
  · exact nomatch plans.symm.trans other
  · exact ⟨known, fresh⟩
  · exact ⟨listed.lights, listed.reloadLights⟩

end State

namespace Scene

variable {s : Scene}

/-- An event keeps the lights, or lists them anew. -/
theorem lights_next (s : Scene) (e : Event) :
    (s.next e).state.lights = s.state.lights ∨
      ∃ body lights, Light.ofListing body = .ok lights ∧
        (s.next e).state.lights = some lights := by
  have same : (s.next e).state.lights = (s.settled e).lights :=
    (congrArg State.lights (s.unclaimed_next e) :)
  rw [same]
  cases e with
  | change canRun c => exact .inl (s.state.lights_change c)
  | go d => exact .inl rfl
  | answer d answer canRun heard =>
    cases waiting : s.underway d with
    | none => exact .inl (by simp only [settled, waiting])
    | some plan =>
      simp only [settled, waiting]
      exact s.state.lights_take s.sync.settings plan answer heard

/-- Lights that were listed once stay known. -/
theorem isSome_lights_run (known : s.state.lights.isSome = true) (events : List Event) :
    (s.run events).state.lights.isSome = true := by
  induction events generalizing s with
  | nil => exact known
  | cons e rest ih =>
    refine ih ?_
    rcases s.lights_next e with same | ⟨body, lights, -, listed⟩
    · rw [same]
      exact known
    · rw [listed]
      rfl

/-- The lights that are known stay in bridge order. -/
theorem lights_ascending_next
    (ordered : s.state.allLights.Pairwise fun a b => bridgeOrder a.number b.number = .lt)
    (e : Event) :
    (s.next e).state.allLights.Pairwise fun a b => bridgeOrder a.number b.number = .lt := by
  rcases s.lights_next e with same | ⟨body, lights, decoded, listed⟩
  · rw [State.allLights, same]
    exact ordered
  · rw [State.allLights, listed]
    exact pairwise_of_listing (fun _ _ _ => Light.number_of_ofRecord?) decoded

/-- After every run the lights that are known are in bridge order. -/
theorem lights_ascending_run (settings : SyncSettings) (wording : Wording) (events : List Event) :
    ((new settings wording).run events).state.allLights.Pairwise
      fun a b => bridgeOrder a.number b.number = .lt := by
  have start : (new settings wording).state.allLights.Pairwise fun a b =>
      bridgeOrder a.number b.number = .lt := .nil
  generalize new settings wording = s at start ⊢
  induction events generalizing s with
  | nil => exact start
  | cons e rest ih => exact ih _ (lights_ascending_next start e)

end Scene
end Reconciler
end LightSync
