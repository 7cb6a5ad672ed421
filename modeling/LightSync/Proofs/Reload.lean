import LightSync.Proofs.LastListing
import LightSync.Proofs.Wishes

/-!
# Loading the groups anew

When the groups are loaded, everything known of them is replaced by the listing, and what was wanted
of the managed ones is forgotten. If both managed groups were found, whoever waits for them is told,
and a household pushes everything that it wants. So what is then known of the groups is decided by
the listing and the household, and nothing of what was known before is left.

## Main definitions

- `SyncSettings.finds`: both managed groups are among some groups
- `State.grouped`: the state with nothing else in it than the groups
- `State.loaded`: what is known of the groups after they were loaded
- `Reconciler.told`: what whoever waits for the managed groups meets when an answer is taken in
- `Household.SameGrounds`: households that decide alike about a push
-/

namespace LightSync

open Bridge (GroupKind Group Answer)

namespace Cell

variable {α : Type} [DecidableEq α] [Drift α]

/-- A value that is wanted after a reset is not confirmed, also if it is the one reset to. -/
theorem set_reset (c : Cell α) (v w : α) :
    ((c.reset v).set w).1.value = some w ∧ ((c.reset v).set w).1.dirty = true := by
  refine ⟨value_set _ w, ?_⟩
  unfold set
  split <;> rfl

theorem set_reset_lights (c : Cell NameSet) (lights : NameSet) :
    ((c.reset ∅).set lights).1 = ⟨some lights, true, false⟩ := by
  by_cases none : (c.reset ∅).value = some lights
  · rw [set_of_eq none, ← none]
    rfl
  · rw [set_of_ne none]
    rfl

end Cell

/-- Are there groups with the names of both managed groups? -/
def SyncSettings.finds (settings : SyncSettings) (listed : List Group) : Bool :=
  GroupKind.all.all fun kind => listed.any (·.name = settings.groupName kind)

theorem SyncSettings.finds_iff {settings : SyncSettings} {listed : List Group} :
    settings.finds listed = true ↔ ∀ kind, ∃ g ∈ listed, g.name = settings.groupName kind := by
  simp only [finds, GroupKind.all, List.all_cons, List.all_nil, Bool.and_true, Bool.and_eq_true,
    List.any_eq_true, decide_eq_true_eq]
  exact ⟨fun both kind => by cases kind <;> simp [both], fun all => ⟨all _, all _⟩⟩

namespace Reconciler

/-! ## Edits of the managed groups -/

theorem Change.edit_of_not_changed {c : Change} {kind : GroupKind} {f : Group → Group × Bool}
    (edits : c.edit? = some (kind, f)) {g : Group} (same : (f g).2 = false) : (f g).1 = g := by
  cases c <;> cases edits
  · exact congrArg (fun lights => { g with lights }) (Cell.set_of_not_changed same)
  · exact congrArg (fun lights => { g with lights }) (Cell.insertAll_of_not_changed same)
  · exact congrArg (fun lights => { g with lights }) (Cell.removeAll_of_not_changed same)
  · exact congrArg (fun brightness => { g with brightness }) (Cell.set_of_not_changed same)
  · exact congrArg (fun colorTemp => { g with colorTemp }) (Cell.set_of_not_changed same)

namespace State

variable {s t : State} {settings : SyncSettings} {listed : List Group}

/-- A change edits the group at the place of the managed group that it concerns. -/
theorem group?_change_of_edit {c : Change} {kind : GroupKind} {f : Group → Group × Bool}
    (edits : c.edit? = some (kind, f)) (s : State) (other : GroupKind) :
    (s.change c).1.group? other =
      (s.group? other).map (if s.place other = s.place kind then fun g => (f g).1 else id) := by
  rw [change_of_edit edits, changeGroup]
  by_cases here : s.place other = s.place kind
  · have same := group?_of_place_eq here
    cases known : s.group? kind with
    | none => simp [same, known]
    | some g =>
      by_cases made : (f g).2 = true
      · simp only [if_pos made, group?_modifyGroup]
      · have still := Change.edit_of_not_changed edits (Bool.eq_false_iff.2 made)
        simp only [if_neg made, if_pos here, same, known, Option.map_some, still]
  · rw [if_neg here, Option.map_id, id]
    split
    · split
      · rw [group?_modifyGroup, if_neg here, Option.map_id, id]
      · rfl
    · rfl

/-- A change leaves the other managed group alone if that is a different group. -/
theorem group?_change_of_apart {c : Change} {kind other : GroupKind} {f : Group → Group × Bool}
    (edits : c.edit? = some (kind, f)) (apart : s.place other ≠ s.place kind) :
    (s.change c).1.group? other = s.group? other := by
  rw [group?_change_of_edit edits, if_neg apart, Option.map_id, id]

/-! ## The groups alone -/

/-- The state with nothing else in it than what is known of the groups. -/
def grouped (s : State) : State :=
  { empty with
    groups := s.groups
    brightnessGroup := s.brightnessGroup
    temperatureGroup := s.temperatureGroup }

theorem grouped_congr (same : s.unclaimed = t.unclaimed) : s.grouped = t.grouped :=
  (congrArg grouped same :)

theorem grouped_modifyGroup (s : State) (kind : GroupKind) (f : Group → Group) :
    (s.modifyGroup kind f).grouped = s.grouped.modifyGroup kind f := by
  cases kind <;> simp only [modifyGroup, grouped, place] <;> split <;> rfl

/-- What a change does to the groups depends on nothing else. -/
theorem grouped_change (s : State) (c : Change) :
    (s.change c).1.grouped = (s.grouped.change c).1.grouped := by
  cases edits : c.edit? with
  | some edit =>
    obtain ⟨kind, f⟩ := edit
    have known : s.grouped.group? kind = s.group? kind := by cases kind <;> rfl
    rw [change_of_edit edits, change_of_edit edits, changeGroup, changeGroup, known]
    cases s.group? kind with
    | none => rfl
    | some g =>
      by_cases different : (f g).2 = true
      · simp only [if_pos different, grouped_modifyGroup]
        rfl
      · simp only [if_neg different]
        rfl
  | none => cases c <;> simp [Change.edit?] at edits <;> rfl

theorem grouped_changes (cs : List Change) (same : s.grouped = t.grouped) :
    (s.changes cs).grouped = (t.changes cs).grouped := by
  induction cs generalizing s t with
  | nil => exact same
  | cons c rest ih =>
    rw [changes_cons, changes_cons]
    refine ih ?_
    rw [grouped_change, same, ← grouped_change]

/-! ## Groups that were just loaded -/

/-- The managed groups are known if both were found. -/
theorem isReady_update_groups (s : State) (settings : SyncSettings) (listed : List Group) :
    (s.update settings (.groups listed)).isReady = settings.finds listed := by
  have found (kind : GroupKind) : ((s.update settings (.groups listed)).group? kind).isSome =
      listed.any (·.name = settings.groupName kind) := by
    rw [group?_update_groups, Option.isSome_map, Bool.eq_iff_iff, List.find?_isSome,
      List.any_eq_true]
  rw [isReady, found, found, SyncSettings.finds, GroupKind.all]
  simp only [List.all_cons, List.all_nil, Bool.and_true]

/-- What is known of the groups after they were loaded, when some changes were made of the managed
ones if these were found. -/
def loaded (settings : SyncSettings) (listed : List Group) (heard : List Change) : State :=
  let t := empty.update settings (.groups listed)
  if settings.finds listed then t.changes heard else t

/-- Nothing is left of what was known of the groups before they were loaded. -/
theorem grouped_take_loadGroups {answer : Answer}
    (read : Plan.loadGroups.read answer = .ok (.groups listed)) (s : State)
    (settings : SyncSettings) (heard : List Change) :
    (s.take settings .loadGroups answer heard).grouped =
      (loaded settings listed heard).grouped := by
  have same : (s.update settings (.groups listed)).grouped =
      (empty.update settings (.groups listed)).grouped := rfl
  simp only [take, read, loaded, Update.loads, isReady_update_groups, Bool.true_and]
  split
  · exact grouped_changes heard same
  · exact same

theorem group?_grouped (s : State) (kind : GroupKind) : s.grouped.group? kind = s.group? kind := by
  cases kind <;> rfl

/-- Managed groups with different names are different groups. -/
theorem apart_update_groups (found : settings.finds listed = true)
    (differ : settings.brightnessGroup ≠ settings.temperatureGroup) (s : State) :
    (s.update settings (.groups listed)).place .brightness ≠
      (s.update settings (.groups listed)).place .temperature := by
  intro same
  have first (kind : GroupKind) : (s.update settings (.groups listed)).place kind =
      listed.findIdx? (·.name = settings.groupName kind) := by cases kind <;> rfl
  rw [first, first] at same
  obtain ⟨g, mem, named⟩ := SyncSettings.finds_iff.1 found .brightness
  have some : (listed.findIdx? (·.name = settings.groupName .brightness)).isSome = true := by
    rw [List.findIdx?_isSome, List.any_eq_true]
    exact ⟨g, mem, decide_eq_true named⟩
  obtain ⟨i, here⟩ := Option.isSome_iff_exists.1 some
  obtain ⟨bound, bright, -⟩ := List.findIdx?_eq_some_iff_getElem.1 here
  obtain ⟨_, warm, -⟩ := List.findIdx?_eq_some_iff_getElem.1 (same ▸ here)
  exact differ ((of_decide_eq_true bright).symm.trans (of_decide_eq_true warm))

/-- What a push makes of two different groups. -/
theorem group?_changes_push (apart : s.place .brightness ≠ s.place .temperature)
    (bright warm : NameSet) (value : UInt8) (mirek : UInt16) :
    let t := s.changes [.setLights .brightness bright, .setLights .temperature warm,
      .setBrightness value, .setTemperature mirek]
    t.group? .brightness = (s.group? .brightness).map (fun g => { g with
      lights := (g.lights.set bright).1
      brightness := (g.brightness.set (Brightness.clamped value.toNat).value).1 }) ∧
    t.group? .temperature = (s.group? .temperature).map (fun g => { g with
      lights := (g.lights.set warm).1
      colorTemp := (g.colorTemp.set (ColorTemp.clamped mirek.toNat).mirek).1 }) := by
  intro t
  let s₁ := (s.change (.setLights .brightness bright)).1
  let s₂ := (s₁.change (.setLights .temperature warm)).1
  let s₃ := (s₂.change (.setBrightness value)).1
  have place₁ (kind : GroupKind) : s₁.place kind = s.place kind := (s.rewanted_change _).place kind
  have place₂ (kind : GroupKind) : s₂.place kind = s.place kind :=
    ((s₁.rewanted_change _).place kind).trans (place₁ kind)
  have place₃ (kind : GroupKind) : s₃.place kind = s.place kind :=
    ((s₂.rewanted_change _).place kind).trans (place₂ kind)
  constructor
  · have last : t.group? .brightness = s₃.group? .brightness :=
      group?_change_of_apart (c := .setTemperature mirek) rfl (by rwa [place₃, place₃])
    have other : s₂.group? .brightness = s₁.group? .brightness :=
      group?_change_of_apart (c := .setLights .temperature warm) rfl (by rwa [place₁, place₁])
    rw [last, group?_change_of_edit (c := .setBrightness value) rfl, if_pos rfl, other,
      group?_change_of_edit (c := .setLights .brightness bright) rfl, if_pos rfl, Option.map_map]
    rfl
  · have apart₂ : s₂.place .temperature ≠ s₂.place .brightness := by
      rw [place₂, place₂]
      exact apart.symm
    have other : s₃.group? .temperature = s₂.group? .temperature :=
      group?_change_of_apart (c := .setBrightness value) rfl apart₂
    have first : s₁.group? .temperature = s.group? .temperature :=
      group?_change_of_apart (c := .setLights .brightness bright) rfl apart.symm
    have last : t.group? .temperature = (s₃.group? .temperature).map fun g => { g with
        colorTemp := (g.colorTemp.set (ColorTemp.clamped mirek.toNat).mirek).1 } :=
      (group?_change_of_edit (c := .setTemperature mirek) rfl s₃ .temperature).trans
        (by rw [if_pos rfl])
    rw [last, other, group?_change_of_edit (c := .setLights .temperature warm) rfl, if_pos rfl,
      first, Option.map_map]
    rfl

end State

/-! ## Who waits for the managed groups -/

/-- What whoever waits for the managed groups meets, when an answer is taken in. -/
def told (r : Reconciler) (plan : Plan) (answer : Answer) : List State :=
  let (r, _, loaded) := (r.receive plan.request answer).finish plan answer
  if loaded then [r.state] else []

/-- After an answer that is read, the one who waits is told if it loads both managed groups, and
meets the groups that were loaded. -/
theorem told_of_ok {plan : Plan} {answer : Answer} {u : Update} (read : plan.read answer = .ok u)
    (r : Reconciler) :
    let state := r.state.update r.settings u
    r.told plan answer = if u.loads && state.isReady then [state] else [] := by
  obtain ⟨log, journal, finished⟩ := finish_of_ok read r
  simp only [told, finished]

theorem told_of_error {plan : Plan} {answer : Answer} {failure : Failure}
    (refused : plan.read answer = .error failure) (r : Reconciler) : r.told plan answer = [] := by
  simp only [told, finish, refused]
  rfl

end Reconciler

namespace Household

open Reconciler (State Plan Change)

variable {σ σ₁ σ₂ : Type} [Host σ] [Host σ₁] [Host σ₂]

/-- Households that agree in everything that decides about a push. -/
structure SameGrounds (h₁ : Household σ₁) (h₂ : Household σ₂) : Prop where
  settings : h₁.settings = h₂.settings
  desired : h₁.desired = h₂.desired
  entities : Host.entities h₁.host = Host.entities h₂.host
  lights : h₁.sync.state.lights = h₂.sync.state.lights
  sync : h₁.sync.settings = h₂.sync.settings

section SameGrounds

variable {h₁ : Household σ₁} {h₂ : Household σ₂}

theorem SameGrounds.followers (same : h₁.SameGrounds h₂) {follows₁ follows₂ : Entity → Bool}
    (alike : follows₁ = follows₂) : h₁.followers follows₁ = h₂.followers follows₂ := by
  have trackable : h₁.isTrackable = h₂.isTrackable := by
    funext e
    rw [isTrackable, isTrackable, same.settings]
  have number : h₁.sync.state.numberOfId? = h₂.sync.state.numberOfId? := by
    funext uniqueId
    simp only [State.numberOfId?, State.light?, State.allLights, same.lights]
  rw [Household.followers, Household.followers, same.entities, trackable, number, alike]

/-- Such households push the same. -/
theorem SameGrounds.heard (same : h₁.SameGrounds h₂) : h₁.heard = h₂.heard := by
  have close : h₁.closeEnough = h₂.closeEnough := by
    funext actual desired
    simp only [closeEnough, same.settings]
  have bright : h₁.followsBrightness = h₂.followsBrightness := by
    funext e
    rw [followsBrightness, followsBrightness, close, same.desired]
  have warm : h₁.followsTemperature = h₂.followsTemperature := by
    funext e
    rw [followsTemperature, followsTemperature, close, same.desired]
  rw [Household.heard, Household.heard, pushes, pushes, same.followers bright, same.followers warm,
    same.settings, same.desired]

end SameGrounds

variable {answer : Answer} {listed : List Group}

/-- What a household knows of the groups after they were loaded. -/
theorem grouped_takeIn (read : Plan.loadGroups.read answer = .ok (.groups listed))
    (h : Household σ) : (h.takeIn .loadGroups answer).1.sync.state.grouped =
      (State.loaded h.sync.settings listed h.heard).grouped := by
  obtain ⟨silent, -⟩ := h.takeIn_eq_conclude .loadGroups answer
  rw [Reconciler.state_of_silent silent,
    State.grouped_congr (Reconciler.unclaimed_conclude ..), State.grouped_take_loadGroups read]

theorem group?_takeIn (read : Plan.loadGroups.read answer = .ok (.groups listed))
    (h : Household σ) (kind : GroupKind) :
    (h.takeIn .loadGroups answer).1.sync.state.group? kind =
      (State.loaded h.sync.settings listed h.heard).group? kind := by
  rw [← State.group?_grouped, grouped_takeIn read, State.group?_grouped]

/-- If the managed groups are different groups and both are found, what a household pushes is wanted
of them, and none of it is confirmed. -/
theorem pushed_takeIn (read : Plan.loadGroups.read answer = .ok (.groups listed))
    {h : Household σ} (found : h.sync.settings.finds listed = true)
    (repush : h.settings.repushOnReady = true)
    (differ : h.sync.settings.brightnessGroup ≠ h.sync.settings.temperatureGroup) :
    let after := (h.takeIn .loadGroups answer).1.sync.state
    (∃ g, after.group? .brightness = some g ∧
      g.lights = ⟨some (h.followers h.followsBrightness), true, false⟩ ∧
      g.brightness.value = some (Brightness.clamped h.desired.brightness.toNat).value ∧
      g.brightness.dirty = true) ∧
    ∃ g, after.group? .temperature = some g ∧
      g.lights = ⟨some (h.followers h.followsTemperature), true, false⟩ ∧
      g.colorTemp.value = some (ColorTemp.clamped h.desired.temperature.toNat).mirek ∧
      g.colorTemp.dirty = true := by
  let t := State.empty.update h.sync.settings (.groups listed)
  obtain ⟨bright, warm⟩ := State.group?_changes_push (s := t)
    (State.apart_update_groups found differ _) (h.followers h.followsBrightness)
    (h.followers h.followsTemperature) h.desired.brightness h.desired.temperature
  have pushed : State.loaded h.sync.settings listed h.heard = t.changes h.pushes := by
    rw [State.loaded, if_pos found, heard, if_pos repush]
  have known (kind : GroupKind) : ∃ g, t.group? kind = some (Group.resetTracking g) := by
    obtain ⟨g, mem, named⟩ := SyncSettings.finds_iff.1 found kind
    have some : (listed.find? (·.name = h.sync.settings.groupName kind)).isSome = true :=
      List.find?_isSome.2 ⟨g, mem, decide_eq_true named⟩
    obtain ⟨g', first⟩ := Option.isSome_iff_exists.1 some
    exact ⟨g', by rw [State.group?_update_groups, first, Option.map_some]⟩
  simp only [group?_takeIn read, pushed]
  obtain ⟨b, brightKnown⟩ := known .brightness
  obtain ⟨w, warmKnown⟩ := known .temperature
  rw [brightKnown] at bright
  rw [warmKnown] at warm
  generalize (Brightness.clamped h.desired.brightness.toNat).value = value at bright ⊢
  generalize (ColorTemp.clamped h.desired.temperature.toNat).mirek = mirek at warm ⊢
  exact ⟨⟨_, bright, Cell.set_reset_lights b.lights _, Cell.set_reset b.brightness 0 value⟩,
    ⟨_, warm, Cell.set_reset_lights w.lights _, Cell.set_reset w.colorTemp 0 mirek⟩⟩

/-- If nothing is pushed, the managed groups that were found hold what a listing leaves: no lights
and zeros, and none of it is confirmed. -/
theorem group?_takeIn_of_quiet (read : Plan.loadGroups.read answer = .ok (.groups listed))
    {h : Household σ}
    (quiet : h.sync.settings.finds listed = false ∨ h.settings.repushOnReady = false)
    (kind : GroupKind) :
    (h.takeIn .loadGroups answer).1.sync.state.group? kind =
      (listed.find? (·.name = h.sync.settings.groupName kind)).map Group.resetTracking := by
  have untouched : State.loaded h.sync.settings listed h.heard =
      State.empty.update h.sync.settings (.groups listed) := by
    rw [State.loaded]
    rcases quiet with missing | off
    · rw [missing, if_neg Bool.false_ne_true]
    · rw [heard, off, if_neg Bool.false_ne_true]
      split <;> rfl
  rw [group?_takeIn read, untouched, State.group?_update_groups]

end Household
end LightSync
