import LightSync.Proofs.State
import LightSync.Reconciler.Plan

/-!
# What is planned

A plan names its reason: a request that is pending, a listing that is missing, or a cell that is
dirty. A request under way carries the value of such a cell, and changes that come meanwhile keep
the cell dirty.

## Main definitions

- `State.Listed`: nothing is requested, and everything was listed
- `State.valuesPath`, `State.valuesCommand`: the request for pending values
- `State.Carries`: the cells whose values a request carries are dirty
-/

namespace LightSync.Reconciler.State

open Bridge

variable {s : State} {settings : SyncSettings} {kind : GroupKind} {plan : Plan}

/-! ## Requests and listings -/

/-- Nothing is requested, and the lights and groups were listed. -/
structure Listed (s : State) : Prop where
  allOff : s.allOff = none
  lights : s.lights.isSome = true
  reloadLights : s.reloadLights = false
  groups : s.groups.isSome = true
  reloadGroups : s.reloadGroups = false

/-- What is planned once everything was listed. -/
def course (s : State) (settings : SyncSettings) : Option Plan :=
  ((s.planMembership .brightness).or (s.planMembership .temperature)).or (s.planValues settings)

theorem planMembership_eq_some_iff :
    s.planMembership kind = some plan ↔
      ∃ g, s.group? kind = some g ∧ g.lights.dirty = true ∧ g.lights.isEmpty = false ∧
        plan = .membership kind g.path g.lights.members := by
  rw [planMembership]
  cases s.group? kind with
  | none => simp
  | some g =>
    simp only [Option.bind_eq_bind, Option.bind_some, Option.some.injEq, exists_eq_left']
    by_cases due : (g.lights.dirty && !g.lights.isEmpty) = true
    · rw [if_pos due]
      simp only [Bool.and_eq_true, Bool.not_eq_true'] at due
      simp [due.1, due.2, eq_comm]
    · rw [if_neg due]
      simp only [Bool.and_eq_true, Bool.not_eq_true'] at due
      refine ⟨nofun, fun ⟨dirty, wanted, _⟩ => absurd ⟨dirty, wanted⟩ due⟩

theorem pendingValue_eq_some_iff {α : Type} [DecidableEq α] {zero value : α} {c : Cell α}
    {lights : Cell NameSet} :
    pendingValue zero c lights = some value ↔
      c.dirty = true ∧ lights.isEmpty = false ∧ c.value = some value ∧ value ≠ zero := by
  rw [pendingValue]
  by_cases due : (c.dirty && !lights.isEmpty) = true
  · rw [if_pos due]
    simp only [Bool.and_eq_true, Bool.not_eq_true'] at due
    simp [due.1, due.2, Option.filter_eq_some_iff]
  · rw [if_neg due]
    simp only [Bool.and_eq_true, Bool.not_eq_true'] at due
    exact ⟨nofun, fun ⟨dirty, wanted, _⟩ => absurd ⟨dirty, wanted⟩ due⟩

/-- Where a request for the values of two groups goes. -/
def valuesPath (b t : Group) : String :=
  if (pendingValue 0 b.brightness b.lights).isSome then b.actionPath else t.actionPath

/-- What a request for the values of two groups carries: both of them if the lights are the same;
otherwise the color temperature waits for the brightness. -/
def valuesCommand (settings : SyncSettings) (b t : Group) : Command :=
  let bri := pendingValue 0 b.brightness b.lights
  let ct := if bri = none ∨ b.lights.value = t.lights.value then
    pendingValue 0 t.colorTemp t.lights else none
  let command := { Command.empty with bri, ct }
  { command with transition := fadeFor settings command b t }

theorem planValues_eq {b t : Group} (hb : s.group? .brightness = some b)
    (ht : s.group? .temperature = some t) :
    let command := valuesCommand settings b t
    s.planValues settings = if command.bri.isSome || command.ct.isSome then
      some (.values (valuesPath b t) command) else none := by
  intro command
  unfold planValues
  simp only [hb, ht, Option.bind_eq_bind, Option.bind_some, command, valuesCommand, valuesPath]
  cases pendingValue 0 b.brightness b.lights with
  | none =>
    simp only [true_or, if_true]
    cases pendingValue 0 t.colorTemp t.lights with
    | none => rfl
    | some ct => rfl
  | some bri =>
    -- Only if both values are pending does it matter whether the lights are the same.
    cases pendingValue 0 t.colorTemp t.lights with
    | none => simp [Command.empty]
    | some ct =>
      by_cases same : b.lights.value = t.lights.value
      · simp [Command.empty, same]
      · simp [Command.empty, same]

/-- A request for values carries the pending values of the managed groups. -/
theorem planValues_cases (h : s.planValues settings = some plan) :
    ∃ b t, s.group? .brightness = some b ∧ s.group? .temperature = some t ∧
      let command := valuesCommand settings b t
      plan = .values (valuesPath b t) command ∧
        (command.bri.isSome = true ∨ command.ct.isSome = true) := by
  have known (kind : GroupKind) : (s.group? kind).isSome = true := by
    cases found : s.group? kind with
    | some g => rfl
    | none => cases kind <;> simp [planValues, found] at h
  obtain ⟨b, hb⟩ := Option.isSome_iff_exists.1 (known .brightness)
  obtain ⟨t, ht⟩ := Option.isSome_iff_exists.1 (known .temperature)
  rw [planValues_eq hb ht] at h
  split at h
  · next carries => exact ⟨b, t, hb, ht, (Option.some.inj h).symm, Bool.or_eq_true_iff.1 carries⟩
  · cases h

/-- A request for values carries the pending brightness, and the pending color temperature unless
it has to wait for the brightness. -/
theorem planValues_eq_some (h : s.planValues settings = some plan) :
    ∃ b t path command, s.group? .brightness = some b ∧ s.group? .temperature = some t ∧
      plan = .values path command ∧ command.on = none ∧
      command.bri = pendingValue 0 b.brightness b.lights ∧
      (command.ct = pendingValue 0 t.colorTemp t.lights ∨
        command.ct = none ∧ command.bri.isSome = true) ∧
      (command.bri.isSome = true ∨ command.ct.isSome = true) := by
  obtain ⟨b, t, hb, ht, rfl, carries⟩ := planValues_cases h
  refine ⟨b, t, _, _, hb, ht, rfl, rfl, rfl, ?_, carries⟩
  by_cases together : pendingValue 0 b.brightness b.lights = none ∨ b.lights.value = t.lights.value
  · exact .inl (if_pos together)
  · exact .inr ⟨if_neg together, Option.isSome_iff_ne_none.2 (not_or.1 together).1⟩

/-- Nothing is sent if neither value is pending. -/
theorem pendingValue_of_planValues_none {b t : Group} (hb : s.group? .brightness = some b)
    (ht : s.group? .temperature = some t) (h : s.planValues settings = none) :
    pendingValue 0 b.brightness b.lights = none ∧ pendingValue 0 t.colorTemp t.lights = none := by
  rw [planValues_eq hb ht] at h
  have nothing : ¬ ((valuesCommand settings b t).bri.isSome ||
      (valuesCommand settings b t).ct.isSome) = true := fun carries => by simp [carries] at h
  simp only [Bool.or_eq_true, not_or, Bool.not_eq_true, Option.isSome_eq_false_iff,
    Option.isNone_iff_eq_none] at nothing
  obtain ⟨noBri, noCt⟩ := nothing
  have bri : pendingValue 0 b.brightness b.lights = none := noBri
  exact ⟨bri, (if_pos (.inl bri)).symm.trans noCt⟩

/-- The order of priority: a pending all-off, the lights, the groups, and then the course of
memberships and values. -/
theorem plan_cases (s : State) (settings : SyncSettings) :
    (∃ fade, s.allOff = some fade ∧
      s.plan settings = some (.allOff (allOffCommand settings fade))) ∨
    (s.allOff = none ∧ (s.lights = none ∨ s.reloadLights = true) ∧
      s.plan settings = some .loadLights) ∨
    (s.allOff = none ∧ s.lights.isSome = true ∧ s.reloadLights = false ∧
      (s.groups = none ∨ s.reloadGroups = true) ∧ s.plan settings = some .loadGroups) ∨
    (s.Listed ∧ s.plan settings = if s.isReady then s.course settings else none) := by
  unfold plan
  cases off : s.allOff with
  | some fade => exact .inl ⟨fade, rfl, rfl⟩
  | none =>
    refine .inr ?_
    by_cases noLights : (s.lights.isNone || s.reloadLights) = true
    · refine .inl ⟨rfl, by simpa using noLights, ?_⟩
      simp only [if_pos noLights]
    · refine .inr ?_
      simp only [if_neg noLights]
      simp only [Bool.or_eq_true, not_or, Option.isNone_iff_eq_none, Bool.not_eq_true] at noLights
      have lights : s.lights.isSome = true := Option.isSome_iff_ne_none.2 noLights.1
      by_cases noGroups : (s.groups.isNone || s.reloadGroups) = true
      · refine .inl ⟨trivial, lights, noLights.2, by simpa using noGroups, ?_⟩
        simp only [if_pos noGroups]
      · refine .inr ⟨?_, ?_⟩
        · simp only [Bool.or_eq_true, not_or, Option.isNone_iff_eq_none,
            Bool.not_eq_true] at noGroups
          exact ⟨off, lights, noLights.2, Option.isSome_iff_ne_none.2 noGroups.1, noGroups.2⟩
        · simp only [if_neg noGroups]
          rfl

/-- If nothing is planned, everything was listed, and nothing of the managed groups is pending. -/
theorem listed_of_plan_none (h : s.plan settings = none) :
    s.Listed ∧ (s.isReady = true → (∀ kind, s.planMembership kind = none) ∧
      s.planValues settings = none) := by
  rcases s.plan_cases settings with
    ⟨_, -, other⟩ | ⟨-, -, other⟩ | ⟨-, -, -, -, other⟩ | ⟨listed, same⟩
  · exact nomatch h.symm.trans other
  · exact nomatch h.symm.trans other
  · exact nomatch h.symm.trans other
  · refine ⟨listed, ?_⟩
    intro ready
    rw [h, if_pos ready, course] at same
    obtain ⟨memberships, values⟩ := Option.or_eq_none_iff.1 same.symm
    obtain ⟨brightness, temperature⟩ := Option.or_eq_none_iff.1 memberships
    refine ⟨?_, values⟩
    intro kind
    cases kind with
    | brightness => exact brightness
    | temperature => exact temperature

/-- Values are planned only when no membership is. -/
theorem values_of_plan {path : String} {command : Command}
    (h : s.plan settings = some (.values path command)) :
    s.Listed ∧ s.isReady = true ∧ (∀ kind, s.planMembership kind = none) ∧
      s.planValues settings = some (.values path command) := by
  have noMembership (kind : GroupKind) :
      s.planMembership kind ≠ some (.values path command) := fun planned => by
    obtain ⟨g, -, -, -, no⟩ := planMembership_eq_some_iff.1 planned
    cases no
  rcases s.plan_cases settings with
    ⟨_, -, other⟩ | ⟨-, -, other⟩ | ⟨-, -, -, -, other⟩ | ⟨listed, same⟩
  · exact nomatch h.symm.trans other
  · exact nomatch h.symm.trans other
  · exact nomatch h.symm.trans other
  · rw [h] at same
    split at same
    · next ready =>
      rcases Option.or_eq_some_iff.1 same.symm with membership | ⟨none, values⟩
      · rcases Option.or_eq_some_iff.1 membership with first | ⟨-, second⟩
        · exact absurd first (noMembership .brightness)
        · exact absurd second (noMembership .temperature)
      · obtain ⟨brightness, temperature⟩ := Option.or_eq_none_iff.1 none
        refine ⟨listed, ready, fun kind => ?_, values⟩
        cases kind with
        | brightness => exact brightness
        | temperature => exact temperature
    · cases same

theorem plan_of_planValues (listed : s.Listed) (memberships : ∀ kind, s.planMembership kind = none)
    (h : s.planValues settings = some plan) : s.plan settings = some plan := by
  obtain ⟨b, t, hb, ht, -⟩ := planValues_cases h
  have ready : s.isReady = true := by rw [isReady, hb, ht]; rfl
  rcases s.plan_cases settings with
    ⟨_, off, -⟩ | ⟨-, due, -⟩ | ⟨-, -, -, due, -⟩ | ⟨-, same⟩
  · exact nomatch off.symm.trans listed.allOff
  · rcases due with none | reload
    · exact nomatch none ▸ listed.lights
    · exact nomatch reload.symm.trans listed.reloadLights
  · rcases due with none | reload
    · exact nomatch none ▸ listed.groups
    · exact nomatch reload.symm.trans listed.reloadGroups
  · rw [same, if_pos ready, course, memberships, memberships, h]
    rfl

theorem clean_of_planMembership_none {g : Group} (h : s.planMembership kind = none)
    (found : s.group? kind = some g) (wanted : g.lights.isEmpty = false) :
    g.lights.dirty = false := by
  apply Bool.eq_false_iff.2
  intro dirty
  exact nomatch h.symm.trans (planMembership_eq_some_iff.2 ⟨g, found, dirty, wanted, rfl⟩)

/-- A value that is not pending was confirmed, or is the zero of a listing. -/
theorem clean_of_pendingValue_none {α : Type} [DecidableEq α] {zero : α} {c : Cell α}
    {lights : Cell NameSet} (h : pendingValue zero c lights = none)
    (known : c.value.isSome = true) (wanted : lights.isEmpty = false) :
    c.dirty = false ∨ c.value = some zero := by
  obtain ⟨value, held⟩ := Option.isSome_iff_exists.1 known
  by_cases real : value = zero
  · exact .inr (held.trans (congrArg some real))
  · refine .inl (Bool.eq_false_iff.2 fun dirty => ?_)
    exact nomatch h.symm.trans (pendingValue_eq_some_iff.2 ⟨dirty, wanted, held, real⟩)

/-! ## What a request carries -/

/-- The cells whose values a request carries are still to be confirmed. -/
def Carries (s : State) : Plan → Prop
  | .membership kind path _ => ∃ g, s.group? kind = some g ∧ g.path = path ∧ g.lights.dirty = true
  | .values _ command =>
    (command.bri.isSome = true →
      ∃ g, s.group? .brightness = some g ∧ g.brightness.dirty = true) ∧
    (command.ct.isSome = true →
      ∃ g, s.group? .temperature = some g ∧ g.colorTemp.dirty = true)
  | _ => True

theorem carries_of_planMembership (h : s.planMembership kind = some plan) : s.Carries plan := by
  obtain ⟨g, found, dirty, -, rfl⟩ := planMembership_eq_some_iff.1 h
  exact ⟨g, found, rfl, dirty⟩

theorem carries_of_planValues (h : s.planValues settings = some plan) : s.Carries plan := by
  obtain ⟨b, t, path, command, hb, ht, rfl, -, bri, ct, -⟩ := planValues_eq_some h
  refine ⟨?_, ?_⟩
  · intro carried
    obtain ⟨value, pending⟩ := Option.isSome_iff_exists.1 carried
    rw [bri, pendingValue_eq_some_iff] at pending
    exact ⟨b, hb, pending.1⟩
  · intro carried
    rcases ct with ct | ⟨no, -⟩
    · obtain ⟨value, pending⟩ := Option.isSome_iff_exists.1 carried
      rw [ct, pendingValue_eq_some_iff] at pending
      exact ⟨t, ht, pending.1⟩
    · rw [no] at carried
      cases carried

theorem carries_of_plan (h : s.plan settings = some plan) : s.Carries plan := by
  rcases s.plan_cases settings with ⟨fade, -, same⟩ | ⟨-, -, same⟩ | ⟨-, -, -, -, same⟩ | ⟨-, same⟩
  · rw [same] at h
    cases h
    trivial
  · rw [same] at h
    cases h
    trivial
  · rw [same] at h
    cases h
    trivial
  · rw [same] at h
    split at h
    · rcases Option.or_eq_some_iff.1 h with membership | ⟨-, values⟩
      · rcases Option.or_eq_some_iff.1 membership with first | ⟨-, second⟩
        · exact carries_of_planMembership first
        · exact carries_of_planMembership second
      · exact carries_of_planValues values
    · cases h

/-- Changes that are made while a request is under way leave what it carries dirty. -/
theorem Carries.rewanted {t : State} (h : s.Carries plan) (rewanted : s.Rewanted t) :
    t.Carries plan := by
  cases plan with
  | membership kind path lights =>
    obtain ⟨g, found, here, dirty⟩ := h
    obtain ⟨g', after, anew⟩ := rewanted.group_of_before found
    exact ⟨g', after, (Group.path_eq_of_number_eq anew.number).trans here, anew.lights.dirty dirty⟩
  | values path command =>
    refine ⟨?_, ?_⟩
    · intro carried
      obtain ⟨g, found, dirty⟩ := h.1 carried
      obtain ⟨g', after, anew⟩ := rewanted.group_of_before found
      exact ⟨g', after, anew.brightness.dirty dirty⟩
    · intro carried
      obtain ⟨g, found, dirty⟩ := h.2 carried
      obtain ⟨g', after, anew⟩ := rewanted.group_of_before found
      exact ⟨g', after, anew.colorTemp.dirty dirty⟩
  | _ => trivial

theorem Carries.congr {t : State} (h : s.Carries plan) (same : s.unclaimed = t.unclaimed) :
    t.Carries plan := by
  cases plan with
  | membership kind path lights => simpa only [Carries, group?_congr same] using h
  | values path command => simpa only [Carries, group?_congr same] using h
  | _ => trivial

end LightSync.Reconciler.State
