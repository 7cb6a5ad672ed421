import LightSync.Proofs.Cell

/-!
# How the state moves

The state moves by changes of what is wanted and by updates from the bridge. Each edits the managed
groups and leaves the rest as it is, so what happens to a managed group is one edit, chosen by its
place among the groups. The claim of a loop plays no part in this.

## Main definitions

- `State.unclaimed`: the state without the claim of a loop
- `Change.edit?`: what a change does to a managed group
- `State.changes`: several changes in turn
- `State.SameRequests`: nothing else is requested and listed
- `State.Rewanted`, `Group.Rewanted`: what changes can make of the managed groups
-/

namespace LightSync

namespace Bridge.Group

/-- A group that a change made of another one: each of its cells may be wanted anew. -/
structure Rewanted (before after : Group) : Prop where
  number : after.number = before.number
  lights : before.lights.Rewanted after.lights
  brightness : before.brightness.Rewanted after.brightness
  colorTemp : before.colorTemp.Rewanted after.colorTemp

theorem Rewanted.refl (g : Group) : g.Rewanted g := ⟨rfl, .refl _, .refl _, .refl _⟩

theorem Rewanted.trans {a b c : Group} (first : a.Rewanted b) (second : b.Rewanted c) :
    a.Rewanted c where
  number := second.number.trans first.number
  lights := first.lights.trans second.lights
  brightness := first.brightness.trans second.brightness
  colorTemp := first.colorTemp.trans second.colorTemp

theorem path_eq_of_number_eq {a b : Group} (h : a.number = b.number) : a.path = b.path := by
  rw [path, path, h]

theorem actionPath_eq_of_number_eq {a b : Group} (h : a.number = b.number) :
    a.actionPath = b.actionPath := by
  rw [actionPath, actionPath, h]

theorem number_eq_of_path_eq {a b : Group} (h : a.path = b.path) : a.number = b.number :=
  (String.append_right_inj "/groups/").1 h

end Bridge.Group

namespace Reconciler

open Bridge

namespace State

/-! ## The claim of a loop -/

/-- The state without the claim of a loop. -/
def unclaimed (s : State) : State := { s with looping := false }

@[simp] theorem group?_unclaimed (s : State) (kind : GroupKind) :
    s.unclaimed.group? kind = s.group? kind := rfl

theorem group?_congr {s t : State} (same : s.unclaimed = t.unclaimed) (kind : GroupKind) :
    s.group? kind = t.group? kind := by
  rw [← group?_unclaimed, same, group?_unclaimed]

theorem isReady_congr {s t : State} (same : s.unclaimed = t.unclaimed) : s.isReady = t.isReady :=
  (congrArg State.isReady same :)

/-! ## Editing one managed group -/

theorem modifyGroup_unclaimed (s : State) (kind : GroupKind) (f : Group → Group) :
    (s.modifyGroup kind f).unclaimed = s.unclaimed.modifyGroup kind f := by
  cases kind <;> simp only [modifyGroup, unclaimed, place] <;> split <;> rfl

@[simp] theorem place_modifyGroup (s : State) (kind other : GroupKind) (f : Group → Group) :
    (s.modifyGroup kind f).place other = s.place other := by
  unfold modifyGroup
  split
  · cases other <;> rfl
  · rfl

@[simp] theorem lights_modifyGroup (s : State) (kind : GroupKind) (f : Group → Group) :
    (s.modifyGroup kind f).lights = s.lights := by
  unfold modifyGroup
  split <;> rfl

@[simp] theorem reloadLights_modifyGroup (s : State) (kind : GroupKind) (f : Group → Group) :
    (s.modifyGroup kind f).reloadLights = s.reloadLights := by
  unfold modifyGroup
  split <;> rfl

@[simp] theorem reloadGroups_modifyGroup (s : State) (kind : GroupKind) (f : Group → Group) :
    (s.modifyGroup kind f).reloadGroups = s.reloadGroups := by
  unfold modifyGroup
  split <;> rfl

@[simp] theorem allOff_modifyGroup (s : State) (kind : GroupKind) (f : Group → Group) :
    (s.modifyGroup kind f).allOff = s.allOff := by
  unfold modifyGroup
  split <;> rfl

@[simp] theorem isNone_groups_modifyGroup (s : State) (kind : GroupKind) (f : Group → Group) :
    (s.modifyGroup kind f).groups.isNone = s.groups.isNone := by
  unfold modifyGroup
  split
  · rename_i groups _ listed
    rw [listed]
    rfl
  · rfl

@[simp] theorem looping_modifyGroup (s : State) (kind : GroupKind) (f : Group → Group) :
    (s.modifyGroup kind f).looping = s.looping := by
  unfold modifyGroup
  split <;> rfl

/-- The group at a place of the list changes, and a managed group is at its place. -/
theorem group?_modifyGroup (s : State) (kind other : GroupKind) (f : Group → Group) :
    (s.modifyGroup kind f).group? other =
      (s.group? other).map (if s.place other = s.place kind then f else id) := by
  rw [group?, group?, place_modifyGroup]
  cases hother : s.place other with
  | none => rfl
  | some j =>
    unfold modifyGroup
    cases hkind : s.place kind with
    | none => simp
    | some i =>
      cases hgroups : s.groups with
      | none => simp [hgroups]
      | some groups =>
        by_cases same : i = j
        · subst same
          simp
        · have differ : ¬ j = i := fun h => same h.symm
          simp [List.getElem?_modify, same, differ]

/-- An edit of a managed group, told for every place of the list. -/
theorem modifyGroup_eq_mapIdx (s : State) (kind : GroupKind) (f : Group → Group) :
    s.modifyGroup kind f = { s with
      groups := s.groups.map (·.mapIdx fun i g => if s.place kind = some i then f g else g) } := by
  unfold modifyGroup
  split
  · next i groups here listed =>
    congr 1
    rw [listed, Option.map_some, Option.some.injEq]
    apply List.ext_getElem?
    intro j
    rw [List.getElem?_modify, List.getElem?_mapIdx, here]
    simp only [Option.some.injEq]
    rfl
  · next unknown =>
    cases here : s.place kind with
    | none =>
      have same (groups : List Group) : groups.mapIdx (fun _ g => g) = groups :=
        List.ext_getElem? fun _ => by simp
      simp [same]
    | some i =>
      cases listed : s.groups with
      | none => cases s; cases listed; rfl
      | some groups => exact absurd listed (unknown i groups here)

/-- Only what an edit does to the group as it stands matters. -/
theorem modifyGroup_congr {s : State} {kind : GroupKind} {f f' : Group → Group}
    (same : ∀ g, s.group? kind = some g → f g = f' g) :
    s.modifyGroup kind f = s.modifyGroup kind f' := by
  rw [modifyGroup_eq_mapIdx, modifyGroup_eq_mapIdx]
  cases listed : s.groups with
  | none => rfl
  | some groups =>
    rw [Option.map_some, Option.map_some]
    congr 2
    apply List.ext_getElem?
    intro i
    rw [List.getElem?_mapIdx, List.getElem?_mapIdx]
    cases there : groups[i]? with
    | none => rfl
    | some g =>
      by_cases here : s.place kind = some i
      · have known : s.group? kind = some g := by
          simp only [group?, here, listed]
          exact there
        rw [Option.map_some, Option.map_some, if_pos here, if_pos here, same g known]
      · simp only [if_neg here]

theorem modifyGroup_of_same {s : State} {kind : GroupKind} {f : Group → Group}
    (same : ∀ g, s.group? kind = some g → f g = g) :
    s.modifyGroup kind f = s := by
  have nothing : s.modifyGroup kind f = s.modifyGroup kind id := modifyGroup_congr same
  rw [nothing]
  unfold modifyGroup
  split
  · next i groups _ listed => rw [List.modify_id, ← listed]
  · rfl

/-- Edits of managed groups are made in any order, if they commute where both concern one group. -/
theorem modifyGroup_comm {s : State} {kind other : GroupKind} {f f' : Group → Group}
    (commute : s.place kind ≠ none → s.place other = s.place kind → ∀ g, f' (f g) = f (f' g)) :
    (s.modifyGroup kind f).modifyGroup other f' = (s.modifyGroup other f').modifyGroup kind f := by
  rw [modifyGroup_eq_mapIdx, modifyGroup_eq_mapIdx (s.modifyGroup other f'), place_modifyGroup,
    place_modifyGroup, modifyGroup_eq_mapIdx, modifyGroup_eq_mapIdx s other]
  simp only [Option.map_map, Function.comp_def, List.mapIdx_mapIdx]
  congr 2
  funext groups
  congr 1
  funext i g
  by_cases here : s.place kind = some i
  · by_cases there : s.place other = some i
    · simp only [if_pos here, if_pos there]
      exact commute (here ▸ nofun) (there.trans here.symm) g
    · simp only [if_pos here, if_neg there]
  · simp only [if_neg here]

/-- What an edit keeps of every group, the list of groups keeps. -/
theorem view_modifyGroup {β : Type} {view : Group → β} {f : Group → Group}
    (kept : ∀ g, view (f g) = view g) (s : State) (kind : GroupKind) :
    (s.modifyGroup kind f).groups.map (·.map view) = s.groups.map (·.map view) := by
  unfold modifyGroup
  split
  · rename_i place groups _ hgroups
    rw [hgroups]
    simp only [Option.map_some, Option.some.injEq]
    apply List.ext_getElem?
    intro i
    simp only [List.getElem?_map, List.getElem?_modify, Option.map_eq_map, Option.map_map]
    congr 1
    funext g
    by_cases here : place = i
    · simp [here, kept]
    · simp [here]
  · rfl

/-- What the list of groups keeps of every group, the managed groups keep. -/
theorem view_group? {β : Type} {view : Group → β} {s t : State}
    (groups : t.groups.map (·.map view) = s.groups.map (·.map view))
    (place : ∀ kind, t.place kind = s.place kind) (kind : GroupKind) :
    (t.group? kind).map view = (s.group? kind).map view := by
  have look : ∀ u : State, (u.group? kind).map view =
      (u.place kind).bind fun i => (u.groups.map (·.map view)).bind (·[i]?) := by
    intro u
    unfold group?
    cases u.place kind with
    | none => rfl
    | some i =>
      cases hgroups : u.groups with
      | none => rfl
      | some gs => simp [List.getElem?_map]
  rw [look, look, groups, place]

end State

/-! ## Changes -/

/-- What a change does to a managed group, if it concerns one, and whether it makes a difference. -/
def Change.edit? : Change → Option (GroupKind × (Group → Group × Bool))
  | .setLights kind lights =>
    some (kind, fun g => ({ g with lights := (g.lights.set lights).1 }, (g.lights.set lights).2))
  | .addLights kind lights =>
    let names := lights.filter (· != "")
    some (kind, fun g =>
      ({ g with lights := (g.lights.insertAll names).1 }, (g.lights.insertAll names).2))
  | .removeLights kind lights =>
    some (kind, fun g =>
      ({ g with lights := (g.lights.removeAll lights).1 }, (g.lights.removeAll lights).2))
  | .setBrightness value =>
    let wanted := (Brightness.clamped value.toNat).value
    some (.brightness, fun g =>
      ({ g with brightness := (g.brightness.set wanted).1 }, (g.brightness.set wanted).2))
  | .setTemperature mirek =>
    let wanted := (ColorTemp.clamped mirek.toNat).mirek
    some (.temperature, fun g =>
      ({ g with colorTemp := (g.colorTemp.set wanted).1 }, (g.colorTemp.set wanted).2))
  | .requestAllOff _ | .requestReload | .runLoop => none

namespace State

theorem change_of_edit {c : Change} {kind : GroupKind} {f : Group → Group × Bool}
    (h : c.edit? = some (kind, f)) (s : State) : s.change c = s.changeGroup kind f := by
  cases c <;> cases h <;> rfl

theorem rewanted_edit {c : Change} {kind : GroupKind} {f : Group → Group × Bool}
    (h : c.edit? = some (kind, f)) (g : Group) : g.Rewanted (f g).1 := by
  cases c <;> cases h
  · exact ⟨rfl, Cell.rewanted_set .., .refl _, .refl _⟩
  · exact ⟨rfl, Cell.rewanted_insertAll .., .refl _, .refl _⟩
  · exact ⟨rfl, Cell.rewanted_removeAll .., .refl _, .refl _⟩
  · exact ⟨rfl, .refl _, Cell.rewanted_set .., .refl _⟩
  · exact ⟨rfl, .refl _, .refl _, Cell.rewanted_set ..⟩

/-- An edit of a managed group is made, or it makes no difference, or the group is not known. -/
theorem changeGroup_cases (s : State) (kind : GroupKind) (f : Group → Group × Bool) :
    s.changeGroup kind f = (s.modifyGroup kind fun g => (f g).1, .changed) ∨
      (s.changeGroup kind f).1 = s ∧ (s.changeGroup kind f).2 ≠ .changed := by
  unfold changeGroup
  cases s.group? kind with
  | none => exact .inr ⟨rfl, nofun⟩
  | some g =>
    by_cases different : (f g).2 = true
    · exact .inl (by simp only [if_pos different])
    · exact .inr (by simp [different])

/-- A change edits a managed group, or does nothing, or is a request, which leaves the groups as
they are. -/
theorem change_cases (s : State) (c : Change) :
    (∃ kind f, c.edit? = some (kind, f) ∧
      s.change c = (s.modifyGroup kind fun g => (f g).1, .changed)) ∨
    (s.change c).1 = s ∧ (s.change c).2 ≠ .changed ∨
    c.edit? = none ∧ (s.change c).2 = .changed ∧
      ((∃ fade, c = .requestAllOff fade) ∨ c = .requestReload ∨ c = .runLoop) := by
  cases hedit : c.edit? with
  | some edit =>
    obtain ⟨kind, f⟩ := edit
    rw [change_of_edit hedit]
    rcases s.changeGroup_cases kind f with made | nothing
    · exact .inl ⟨kind, f, rfl, made⟩
    · exact .inr (.inl nothing)
  | none =>
    refine .inr (.inr ⟨rfl, ?_⟩)
    cases c <;> simp [Change.edit?] at hedit
    · exact ⟨rfl, .inl ⟨_, rfl⟩⟩
    · exact ⟨rfl, .inr (.inl rfl)⟩
    · exact ⟨rfl, .inr (.inr rfl)⟩

theorem change_of_not_changed {s : State} {c : Change} (nothing : (s.change c).2 ≠ .changed) :
    (s.change c).1 = s := by
  rcases s.change_cases c with ⟨kind, f, -, made⟩ | ⟨same, -⟩ | ⟨-, made, -⟩
  · exact absurd (congrArg Prod.snd made) nothing
  · exact same
  · exact absurd made nothing

theorem looping_change (s : State) (c : Change) : (s.change c).1.looping = s.looping := by
  rcases s.change_cases c with ⟨kind, f, -, made⟩ | ⟨same, -⟩ | ⟨-, -, ⟨fade, rfl⟩ | rfl | rfl⟩
  · rw [made, looping_modifyGroup]
  · rw [same]
  · rfl
  · rfl
  · rfl

def changes (s : State) (cs : List Change) : State := cs.foldl (fun s c => (s.change c).1) s

@[simp] theorem changes_nil (s : State) : s.changes [] = s := rfl

theorem changes_cons (s : State) (c : Change) (cs : List Change) :
    s.changes (c :: cs) = (s.change c).1.changes cs := rfl

theorem changes_append (s : State) (first second : List Change) :
    s.changes (first ++ second) = (s.changes first).changes second := List.foldl_append

theorem change_unclaimed (s : State) (c : Change) :
    (s.change c).1.unclaimed = (s.unclaimed.change c).1 := by
  cases hedit : c.edit? with
  | some edit =>
    obtain ⟨kind, f⟩ := edit
    rw [change_of_edit hedit, change_of_edit hedit, changeGroup, changeGroup, group?_unclaimed]
    cases s.group? kind with
    | none => rfl
    | some g =>
      by_cases different : (f g).2 = true
      · simp only [if_pos different, modifyGroup_unclaimed]
      · simp only [if_neg different]
  | none => cases c <;> simp [Change.edit?] at hedit <;> rfl

theorem changes_congr {s t : State} (same : s.unclaimed = t.unclaimed) (cs : List Change) :
    (s.changes cs).unclaimed = (t.changes cs).unclaimed := by
  induction cs generalizing s t with
  | nil => exact same
  | cons c rest ih =>
    rw [changes_cons, changes_cons]
    refine ih ?_
    rw [change_unclaimed, same, ← change_unclaimed]

/-! ## Requests -/

/-- The same is requested, and the same is listed, but for what is wanted of the groups. -/
structure SameRequests (s t : State) : Prop where
  allOff : t.allOff = s.allOff
  lights : t.lights = s.lights
  reloadLights : t.reloadLights = s.reloadLights
  groups : t.groups.isNone = s.groups.isNone
  reloadGroups : t.reloadGroups = s.reloadGroups

theorem SameRequests.refl (s : State) : s.SameRequests s := ⟨rfl, rfl, rfl, rfl, rfl⟩

theorem SameRequests.trans {a b c : State} (first : a.SameRequests b) (second : b.SameRequests c) :
    a.SameRequests c where
  allOff := second.allOff.trans first.allOff
  lights := second.lights.trans first.lights
  reloadLights := second.reloadLights.trans first.reloadLights
  groups := second.groups.trans first.groups
  reloadGroups := second.reloadGroups.trans first.reloadGroups

theorem sameRequests_modifyGroup (s : State) (kind : GroupKind) (f : Group → Group) :
    s.SameRequests (s.modifyGroup kind f) := by
  constructor <;> simp

/-- Changes of what is wanted of the managed groups request nothing. -/
theorem sameRequests_changes {cs : List Change} (h : ∀ c ∈ cs, c.edit?.isSome = true) (s : State) :
    s.SameRequests (s.changes cs) := by
  induction cs generalizing s with
  | nil => exact .refl s
  | cons c rest ih =>
    have first : s.SameRequests (s.change c).1 := by
      rcases s.change_cases c with ⟨kind, f, -, made⟩ | ⟨same, -⟩ | ⟨request, -⟩
      · rw [made]
        exact sameRequests_modifyGroup s kind _
      · rw [same]
        exact .refl s
      · have edits := h c (List.mem_cons_self ..)
        rw [request] at edits
        cases edits
    exact first.trans (ih (fun c' mem => h c' (List.mem_cons_of_mem _ mem)) _)

/-! ## What changes can make of a state -/

/-- A state that changes made of another one: the groups stay where they are, and the managed ones
may be wanted anew. -/
structure Rewanted (before after : State) : Prop where
  place : ∀ kind, after.place kind = before.place kind
  numbers : after.groups.map (·.map (·.number)) = before.groups.map (·.map (·.number))
  group : ∀ kind, Option.Rel Group.Rewanted (before.group? kind) (after.group? kind)

theorem rel_refl (g : Option Group) : Option.Rel Group.Rewanted g g := by
  cases g with
  | none => exact .none
  | some g => exact .some (.refl g)

theorem Rewanted.refl (s : State) : s.Rewanted s := ⟨fun _ => rfl, rfl, fun _ => rel_refl _⟩

theorem Rewanted.trans {a b c : State} (first : a.Rewanted b) (second : b.Rewanted c) :
    a.Rewanted c where
  place kind := (second.place kind).trans (first.place kind)
  numbers := second.numbers.trans first.numbers
  group kind := by
    have hfirst := first.group kind
    have hsecond := second.group kind
    generalize a.group? kind = ga, b.group? kind = gb, c.group? kind = gc at hfirst hsecond
    cases hfirst with
    | none =>
      cases hsecond
      exact .none
    | some hab =>
      cases hsecond with
      | some hbc => exact .some (hab.trans hbc)

theorem rewanted_modifyGroup {f : Group → Group} (rewanted : ∀ g : Group, g.Rewanted (f g))
    (s : State) (kind : GroupKind) : s.Rewanted (s.modifyGroup kind f) where
  place other := place_modifyGroup ..
  numbers := view_modifyGroup (fun g => (rewanted g).number) s kind
  group other := by
    rw [group?_modifyGroup]
    cases s.group? other with
    | none => exact .none
    | some g =>
      by_cases same : s.place other = s.place kind
      · simpa only [if_pos same] using .some (rewanted g)
      · simpa only [if_neg same] using .some (.refl g)

theorem rewanted_change (s : State) (c : Change) : s.Rewanted (s.change c).1 := by
  rcases s.change_cases c with ⟨kind, f, hedit, made⟩ | ⟨nothing, -⟩ | ⟨-, -, request⟩
  · rw [made]
    exact rewanted_modifyGroup (rewanted_edit hedit) s kind
  · rw [nothing]
    exact .refl s
  · rcases request with ⟨fade, rfl⟩ | rfl | rfl
    · exact ⟨fun kind => by cases kind <;> rfl, rfl, fun kind => rel_refl _⟩
    · exact ⟨fun kind => by cases kind <;> rfl, rfl, fun kind => rel_refl _⟩
    · exact .refl s

theorem rewanted_changes (s : State) (cs : List Change) : s.Rewanted (s.changes cs) := by
  induction cs generalizing s with
  | nil => exact .refl s
  | cons c rest ih => exact (s.rewanted_change c).trans (ih _)

theorem place_congr {s t : State} (same : s.unclaimed = t.unclaimed) (kind : GroupKind) :
    s.place kind = t.place kind := by
  cases kind with
  | brightness => exact (congrArg State.brightnessGroup same :)
  | temperature => exact (congrArg State.temperatureGroup same :)

theorem groups_congr {s t : State} (same : s.unclaimed = t.unclaimed) : s.groups = t.groups :=
  (congrArg State.groups same :)

theorem Rewanted.congr {s t u : State} (h : s.Rewanted t) (same : t.unclaimed = u.unclaimed) :
    s.Rewanted u where
  place kind := (place_congr same kind).symm.trans (h.place kind)
  numbers := by rw [← groups_congr same, h.numbers]
  group kind := by rw [← group?_congr same]; exact h.group kind

/-- After changes a managed group is the one from before, wanted anew. -/
theorem Rewanted.group_of_after {s t : State} (h : s.Rewanted t) {kind : GroupKind} {g' : Group}
    (after : t.group? kind = some g') : ∃ g, s.group? kind = some g ∧ g.Rewanted g' := by
  have related := h.group kind
  rw [after] at related
  generalize s.group? kind = before at related
  cases related with
  | some rewanted => exact ⟨_, rfl, rewanted⟩

/-- A managed group from before is there after changes, wanted anew. -/
theorem Rewanted.group_of_before {s t : State} (h : s.Rewanted t) {kind : GroupKind} {g : Group}
    (before : s.group? kind = some g) : ∃ g', t.group? kind = some g' ∧ g.Rewanted g' := by
  have related := h.group kind
  rw [before] at related
  generalize t.group? kind = after at related
  cases related with
  | some rewanted => exact ⟨_, rfl, rewanted⟩

end State
end Reconciler
end LightSync
