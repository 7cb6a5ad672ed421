import LightSync.Proofs.State

/-!
# What an update does to the managed groups

An update empties the managed groups, begins their tracking anew, or confirms cells of them. Only
the last of these reads what it confirms from the answer, and it keeps every value.

## Main definitions

- `SyncSettings.groupName`: the name of a managed group
- `Group.emptied`: a managed group after all lights were turned off
- `Group.values`: what an acknowledgement cannot change
-/

namespace LightSync

def SyncSettings.groupName (s : SyncSettings) : Bridge.GroupKind → String
  | .brightness => s.brightnessGroup
  | .temperature => s.temperatureGroup

namespace Bridge.Group

/-- A managed group after all lights were turned off: no lights, and nothing to be sent. -/
def emptied (g : Group) : Group := { g with lights := (g.lights.reset ∅).clean }

/-- The number, the name and the values of a group, without what is known of their confirmation. -/
def values (g : Group) : String × String × Option NameSet × Option UInt8 × Option UInt16 :=
  (g.number, g.name, g.lights.value, g.brightness.value, g.colorTemp.value)

/-- A membership taken in as confirmed at a path. -/
def confirmLights (path : String) (confirmed : Option NameSet) (g : Group) : Group :=
  if g.path = path then { g with lights := Reconciler.State.confirm confirmed g.lights } else g

theorem values_confirmLights (path : String) (confirmed : Option NameSet) (g : Group) :
    (g.confirmLights path confirmed).values = g.values := by
  unfold confirmLights
  split
  · simp only [values, Cell.value_confirm]
  · rfl

end Bridge.Group

namespace Reconciler.State

open Bridge

variable {s : State} {settings : SyncSettings} {kind : GroupKind}

theorem group?_update_allOff :
    (s.update settings .allOff).group? kind = (s.group? kind).map Group.emptied := by
  have both : (s.update settings .allOff).group? kind =
      ((s.modifyGroup .brightness Group.emptied).modifyGroup .temperature Group.emptied).group?
        kind := rfl
  rw [both, group?_modifyGroup, group?_modifyGroup, place_modifyGroup, place_modifyGroup]
  cases kind with
  | brightness =>
    rw [if_pos rfl, Option.map_map]
    split
    · rfl
    · rfl
  | temperature =>
    rw [if_pos rfl, Option.map_map]
    split
    · rfl
    · rfl

theorem group?_update_lights {lights : List Light} :
    (s.update settings (.lights lights)).group? kind = s.group? kind := by
  cases kind <;> rfl

theorem getElem?_resetManaged (groups : List Group) (place : Option Nat) (i : Nat) :
    (resetManaged groups place)[i]? =
      (groups[i]?).map (if place = some i then Group.resetTracking else id) := by
  cases place with
  | none => simp [resetManaged]
  | some j =>
    by_cases same : j = i
    · simp [resetManaged, same]
    · simp [resetManaged, same]

/-- What tracking a group anew keeps of it, it keeps of every group of the list. -/
theorem map_resetManaged {β : Type} {view : Group → β}
    (kept : ∀ g : Group, view g.resetTracking = view g) (groups : List Group)
    (place : Option Nat) : (resetManaged groups place).map view = groups.map view := by
  apply List.ext_getElem?
  intro i
  rw [List.getElem?_map, List.getElem?_map, getElem?_resetManaged, Option.map_map]
  congr 1
  funext g
  split
  · exact kept g
  · rfl

/-- After the groups were listed, a managed group is the first one of its name, tracked anew. -/
theorem group?_update_groups {groups : List Group} :
    (s.update settings (.groups groups)).group? kind =
      (groups.find? (·.name = settings.groupName kind)).map Group.resetTracking := by
  rw [List.find?_eq_bind_findIdx?_getElem?]
  have here : (s.update settings (.groups groups)).place kind =
      groups.findIdx? (·.name = settings.groupName kind) := by
    cases kind <;> rfl
  rw [group?, here]
  cases found : groups.findIdx? (·.name = settings.groupName kind) with
  | none => rfl
  | some i =>
    have listed : (s.update settings (.groups groups)).groups =
        some (resetManaged (resetManaged groups
          (groups.findIdx? (·.name = settings.groupName .brightness)))
          (groups.findIdx? (·.name = settings.groupName .temperature))) := rfl
    simp only [listed, Option.bind_eq_bind, Option.bind_some, getElem?_resetManaged]
    -- A group managed for both values is reset twice, which is the same as once.
    cases kind with
    | brightness =>
      rw [found, if_pos rfl, Option.map_map]
      split
      · rfl
      · rfl
    | temperature =>
      rw [found, if_pos rfl, Option.map_map]
      split
      · rfl
      · rfl

/-- A confirmed membership goes to every managed group at the place of the one it is for. -/
theorem group?_update_membership {other : GroupKind} {path : String}
    {confirmed : Option NameSet} :
    (s.update settings (.membership other path confirmed)).group? kind =
      (s.group? kind).map fun g =>
        if s.place kind = s.place other then g.confirmLights path confirmed else g := by
  have edited : s.update settings (.membership other path confirmed) =
      s.modifyGroup other (Group.confirmLights path confirmed) := rfl
  rw [edited, group?_modifyGroup]
  congr 1
  funext g
  split
  · rfl
  · rfl

/-- Confirmed values go to every managed group at the place of the one whose value is managed. -/
theorem group?_update_values {bri : Option UInt8} {ct : Option UInt16} :
    (s.update settings (.values bri ct)).group? kind = (s.group? kind).map fun g => { g with
      brightness :=
        if s.place kind = s.place .brightness then confirm bri g.brightness else g.brightness
      colorTemp :=
        if s.place kind = s.place .temperature then confirm ct g.colorTemp else g.colorTemp } := by
  have edited : s.update settings (.values bri ct) =
      (s.modifyGroup .brightness fun g => { g with
        brightness := confirm bri g.brightness }).modifyGroup .temperature fun g => { g with
          colorTemp := confirm ct g.colorTemp } := rfl
  rw [edited, group?_modifyGroup, group?_modifyGroup, place_modifyGroup, place_modifyGroup,
    Option.map_map]
  congr 1
  funext g
  by_cases bright : s.place kind = s.place .brightness
  · by_cases warm : s.place kind = s.place .temperature
    · simp only [Function.comp_apply, if_pos bright, if_pos warm]
    · simp only [Function.comp_apply, if_pos bright, if_neg warm, id_eq]
  · by_cases warm : s.place kind = s.place .temperature
    · simp only [Function.comp_apply, if_neg bright, if_pos warm, id_eq]
    · simp only [Function.comp_apply, if_neg bright, if_neg warm, id_eq]

/-- Everything an update can make of a managed group: it is emptied, or it is the same, or the group
was listed anew, or some of its cells are confirmed. -/
theorem group_update_cases {u : Update} {g g' : Group} (before : s.group? kind = some g)
    (after : (s.update settings u).group? kind = some g') :
    (u = .allOff ∧ g' = g.emptied) ∨ g' = g ∨
    (∃ groups listed, u = .groups groups ∧ g' = Group.resetTracking listed) ∨
    (∃ other confirmed, u = .membership other g.path confirmed ∧
      g' = { g with lights := confirm confirmed g.lights }) ∨
    ∃ bri ct brightness colorTemp, u = .values bri ct ∧ g' = { g with brightness, colorTemp } ∧
      (brightness = g.brightness ∨ brightness = confirm bri g.brightness) ∧
      (colorTemp = g.colorTemp ∨ colorTemp = confirm ct g.colorTemp) := by
  cases u with
  | allOff =>
    rw [group?_update_allOff, before] at after
    cases after
    exact .inl ⟨rfl, rfl⟩
  | lights lights =>
    rw [group?_update_lights, before] at after
    cases after
    exact .inr (.inl rfl)
  | groups groups =>
    rw [group?_update_groups, Option.map_eq_some_iff] at after
    obtain ⟨listed, -, rfl⟩ := after
    exact .inr (.inr (.inl ⟨groups, listed, rfl, rfl⟩))
  | membership other path confirmed =>
    rw [group?_update_membership, before, Option.map_some, Option.some.injEq] at after
    subst after
    -- A group may be managed for both values, and its path may have changed since the write.
    by_cases here : s.place kind = s.place other
    · rw [if_pos here]
      unfold Group.confirmLights
      by_cases still : g.path = path
      · rw [if_pos still]
        exact .inr (.inr (.inr (.inl ⟨other, confirmed, by rw [still], rfl⟩)))
      · rw [if_neg still]
        exact .inr (.inl rfl)
    · rw [if_neg here]
      exact .inr (.inl rfl)
  | values bri ct =>
    rw [group?_update_values, before, Option.map_some, Option.some.injEq] at after
    subst after
    refine .inr (.inr (.inr (.inr ⟨bri, ct, _, _, rfl, rfl, ?_, ?_⟩)))
    · by_cases here : s.place kind = s.place .brightness
      · exact .inr (if_pos here)
      · exact .inl (if_neg here)
    · by_cases here : s.place kind = s.place .temperature
      · exact .inr (if_pos here)
      · exact .inl (if_neg here)

/-- Confirmations keep every value of every group. -/
theorem values_update {u : Update}
    (h : (∃ kind path confirmed, u = .membership kind path confirmed) ∨
      ∃ bri ct, u = .values bri ct) :
    (s.update settings u).groups.map (·.map Group.values) = s.groups.map (·.map Group.values) := by
  rcases h with ⟨kind, path, confirmed, rfl⟩ | ⟨bri, ct, rfl⟩
  · exact view_modifyGroup (Group.values_confirmLights path confirmed) s kind
  · refine (view_modifyGroup ?_ _ .temperature).trans (view_modifyGroup ?_ s .brightness)
    · intro g
      simp only [Group.values, Cell.value_confirm]
    · intro g
      simp only [Group.values, Cell.value_confirm]

theorem looping_update (u : Update) : (s.update settings u).looping = s.looping := by
  cases u with
  | allOff => exact (looping_modifyGroup ..).trans (looping_modifyGroup ..)
  | lights => rfl
  | groups => rfl
  | membership => exact looping_modifyGroup ..
  | values => exact (looping_modifyGroup ..).trans (looping_modifyGroup ..)

theorem place_update {u : Update} (h : ∀ groups, u ≠ .groups groups) (kind : GroupKind) :
    (s.update settings u).place kind = s.place kind := by
  cases u with
  | allOff => exact (place_modifyGroup ..).trans (place_modifyGroup ..)
  | lights => cases kind <;> rfl
  | groups groups => exact absurd rfl (h groups)
  | membership => exact place_modifyGroup ..
  | values => exact (place_modifyGroup ..).trans (place_modifyGroup ..)

end Reconciler.State
end LightSync
