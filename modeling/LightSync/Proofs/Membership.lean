import LightSync.Proofs.Confirmation
import LightSync.Proofs.Fading

/-!
# Wanted memberships

Listings and an all-off begin the memberships of the managed groups anew. Apart from them, which
lights are wanted in a managed group is changed by the operations on memberships alone, each of
which does to the set what its name says. Where the two managed groups are different groups, an
operation on one membership leaves the other one alone.

## Main definitions

- `State.wanted`: the lights wanted in a managed group
- `State.TwoGroups`: both managed groups are known, and they are different groups
- `Scene.Routine`: events that neither list anything nor turn all lights off
-/

namespace LightSync.Reconciler

open Bridge

namespace State

variable {s t : State} {kind other : GroupKind} {light : String}

/-- The lights wanted in a managed group, none if it is not known. -/
def wanted (s : State) (kind : GroupKind) : NameSet := (s.viewOf kind (·.lights.members)).getD ∅

theorem wanted_congr (same : s.unclaimed = t.unclaimed) (kind : GroupKind) :
    s.wanted kind = t.wanted kind :=
  congrArg (Option.getD · ∅) (viewOf_congr same kind)

theorem wanted_of_group {g : Group} (known : s.group? kind = some g) :
    s.wanted kind = g.lights.members := by
  rw [wanted, viewOf, known, Option.map_some, Option.getD_some]

/-! ## Operations on a membership -/

section Operations

variable {f : Cell NameSet → Cell NameSet × Bool}

/-- An operation on a membership is done to the lights wanted in that group. -/
theorem wanted_changeLights (idle : ∀ c, (f c).2 = false → (f c).1 = c) {g : Group}
    (known : s.group? kind = some g) :
    (s.changeLights kind f).1.wanted kind = (f g.lights).1.members := by
  have idle' (g : Group) (no : (f g.lights).2 = false) :
      (f g.lights).1.members = g.lights.members := congrArg Cell.members (idle g.lights no)
  have made : (s.changeLights kind f).1.viewOf kind (·.lights.members) =
      (s.group? kind).map fun g => (f g.lights).1.members := viewOf_changeGroup idle' s
  rw [wanted, made, known, Option.map_some, Option.getD_some]

/-- Nothing is wanted in a group that is not known. -/
theorem wanted_changeLights_of_unknown (unknown : s.group? kind = none) :
    (s.changeLights kind f).1 = s := by
  rw [changeLights, changeGroup, unknown]

/-- An operation on one membership leaves that of another group alone. -/
theorem wanted_changeLights_of_apart (apart : s.place other ≠ s.place kind) :
    (s.changeLights kind f).1.wanted other = s.wanted other := by
  rcases s.changeGroup_cases kind fun g => ({ g with lights := (f g.lights).1 }, (f g.lights).2)
    with made | ⟨same, -⟩
  · rw [changeLights, made, wanted, viewOf, group?_modifyGroup, if_neg apart, Option.map_id]
    rfl
  · rw [changeLights, same]

end Operations

theorem mem_wanted_addLights (known : (s.group? kind).isSome = true) {names : List String} :
    light ∈ (s.change (.addLights kind names)).1.wanted kind ↔
      light ∈ names ∧ light ≠ "" ∨ light ∈ s.wanted kind := by
  obtain ⟨g, known⟩ := Option.isSome_iff_exists.1 known
  have added := wanted_changeLights (f := (·.insertAll (names.filter (· != ""))))
    (fun _ => Cell.insertAll_of_not_changed) known
  rw [change, added, Cell.mem_insertAll, List.mem_filter, bne_iff_ne, wanted_of_group known]

theorem mem_wanted_removeLights {names : List String} :
    light ∈ (s.change (.removeLights kind names)).1.wanted kind ↔
      light ∈ s.wanted kind ∧ light ∉ names := by
  rw [change]
  cases known : s.group? kind with
  | none =>
    rw [wanted_changeLights_of_unknown known, wanted, viewOf, known]
    exact ⟨fun no => absurd no NameSet.not_mem_empty, And.left⟩
  | some g =>
    have removed := wanted_changeLights (f := (·.removeAll names))
      (fun _ => Cell.removeAll_of_not_changed) known
    rw [removed, Cell.mem_removeAll, wanted_of_group known]

/-- What does not change what is wanted of a membership leaves all of them alone. -/
theorem wanted_change_of_edit {c : Change}
    (kept : ∀ kind f, c.edit? = some (kind, f) → ∀ g, (f g).1.lights = g.lights) (s : State)
    (kind : GroupKind) : (s.change c).1.wanted kind = s.wanted kind :=
  congrArg (Option.getD · ∅) (viewOf_change (fun other f edits g =>
    congrArg Cell.members (kept other f edits g)) s kind)

/-! ## Two managed groups -/

/-- Both managed groups are known, and they are different groups. -/
structure TwoGroups (s : State) : Prop where
  known : ∀ kind, (s.group? kind).isSome = true
  apart : s.place .brightness ≠ s.place .temperature

/-- Groups that stay where they are stay two groups. -/
theorem TwoGroups.of_place (h : s.TwoGroups) (place : ∀ kind, t.place kind = s.place kind)
    (stays : ∀ kind g, s.group? kind = some g → ∃ g', t.group? kind = some g') :
    t.TwoGroups where
  known kind := by
    obtain ⟨g, known⟩ := Option.isSome_iff_exists.1 (h.known kind)
    exact Option.isSome_iff_exists.2 (stays kind g known)
  apart := by
    rw [place, place]
    exact h.apart

theorem TwoGroups.congr (h : s.TwoGroups) (same : s.unclaimed = t.unclaimed) : t.TwoGroups :=
  h.of_place (fun kind => (place_congr same kind).symm)
    fun kind g known => ⟨g, (group?_congr same kind).symm.trans known⟩

theorem TwoGroups.rewanted (h : s.TwoGroups) (rewanted : s.Rewanted t) : t.TwoGroups :=
  h.of_place rewanted.place fun _ _ known => (rewanted.group_of_before known).imp fun _ => And.left

/-- Confirmations keep the groups and what is wanted in them. -/
theorem TwoGroups.keep (h : s.TwoGroups) (kept : Scene.KeepsValues s t) : t.TwoGroups :=
  h.of_place kept.2 fun _ _ known => (kept.group known).imp fun _ => And.left

theorem TwoGroups.wanted_keep (h : s.TwoGroups) (kept : Scene.KeepsValues s t)
    (kind : GroupKind) : t.wanted kind = s.wanted kind := by
  obtain ⟨g, known⟩ := Option.isSome_iff_exists.1 (h.known kind)
  obtain ⟨g', after, same⟩ := kept.group known
  have lights : g'.lights.value = g.lights.value := congrArg (·.2.2.1) same
  rw [wanted_of_group known, wanted_of_group after, Cell.members, lights, Cell.members]

end State

/-! ## Events that leave memberships alone -/

namespace Scene

variable {s : Scene} {e : Event}

/-- Only values are set, and only memberships and values are brought to the bridge. -/
def Routine (s : Scene) : Event → Prop
  | .change _ c => match c with
    | .setBrightness _ | .setTemperature _ | .runLoop => True
    | _ => False
  | .go _ => True
  | .answer d _ _ _ => ∀ plan, s.underway d = some plan → Writes plan

theorem twoGroups_next (routine : s.Routine e) (groups : s.state.TwoGroups) :
    (s.next e).state.TwoGroups := by
  cases e with
  | change canRun c =>
    exact (groups.rewanted (s.state.rewanted_change c)).congr
      (s.unclaimed_next (.change canRun c)).symm
  | go d => exact groups.keep (keepsValues_go s d)
  | answer d answer canRun heard =>
    cases waiting : s.underway d with
    | none =>
      rw [next_answer_of_none s waiting]
      exact groups
    | some plan => exact groups.keep (keepsValues_answer waiting (routine plan waiting) ..)

theorem wanted_next (routine : s.Routine e) (groups : s.state.TwoGroups) (kind : GroupKind) :
    (s.next e).state.wanted kind = s.state.wanted kind := by
  cases e with
  | change canRun c =>
    refine (State.wanted_congr (s.unclaimed_next _) kind).trans ?_
    refine State.wanted_change_of_edit (fun other f edits g => ?_) s.state kind
    cases c with
    | setBrightness value =>
      cases edits
      rfl
    | setTemperature value =>
      cases edits
      rfl
    | runLoop => cases edits
    | _ => cases routine
  | go d => exact groups.wanted_keep (keepsValues_go s d) kind
  | answer d answer canRun heard =>
    cases waiting : s.underway d with
    | none => rw [next_answer_of_none s waiting]
    | some plan =>
      exact groups.wanted_keep (keepsValues_answer waiting (routine plan waiting) ..) kind

end Scene
end LightSync.Reconciler
