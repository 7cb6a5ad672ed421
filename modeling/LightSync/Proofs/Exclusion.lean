import LightSync.Proofs.AtWork
import Mathlib.Data.List.Induction

/-!
# Which lights come to be tracked

Whatever a household does, a light comes to be wanted in a managed group only for an entity that is
not excluded: for a single light, or, when it is turned on, for a group of the bridge. In the second
case every light of the group comes to be wanted, also one whose own entity is excluded.

## Main definitions

- `Change.Adds`: a change wants a light
- `Household.TracksLight`, `Household.TracksGroup`: an entity for which a light may be tracked
- `DrivenHouse.AddsFor`: the entities for which a light may come to be wanted in a happening
-/

namespace LightSync

namespace Reconciler

open Bridge

/-- A change by which a light may come to be wanted. -/
def Change.Adds (light : String) : Change → Prop
  | .setLights _ lights => light ∈ lights
  | .addLights _ names => light ∈ names
  | _ => False

namespace State

variable {s : State} {settings : SyncSettings} {kind : GroupKind} {light : String}

theorem exists_of_mem_wanted (h : light ∈ s.wanted kind) :
    ∃ g, s.group? kind = some g ∧ light ∈ g.lights.members := by
  cases known : s.group? kind with
  | none =>
    rw [wanted, viewOf, known] at h
    exact absurd h NameSet.not_mem_empty
  | some g =>
    rw [wanted_of_group known] at h
    exact ⟨g, rfl, h⟩

/-- An edit of a membership adds what its change says. -/
theorem mem_edit {c : Change} {f : Group → Group × Bool} (edits : c.edit? = some (kind, f))
    {g : Group} (h : light ∈ (f g).1.lights.members) : light ∈ g.lights.members ∨ c.Adds light := by
  cases c with
  | setLights _ lights =>
    cases edits
    rcases Cell.mem_set h with mem | mem
    · exact .inl mem
    · exact .inr mem
  | addLights _ names =>
    cases edits
    rcases Cell.mem_insertAll.1 h with mem | mem
    · exact .inr (List.mem_filter.1 mem).1
    · exact .inl mem
  | removeLights _ names =>
    cases edits
    exact .inl (Cell.mem_removeAll.1 h).1
  | setBrightness | setTemperature =>
    cases edits
    exact .inl h
  | requestAllOff | requestReload | runLoop => cases edits

theorem mem_wanted_change {c : Change} (h : light ∈ (s.change c).1.wanted kind) :
    light ∈ s.wanted kind ∨ c.Adds light := by
  rcases s.change_cases c with ⟨other, f, edits, made⟩ | ⟨same, -⟩ | ⟨request, -, -⟩
  · rw [made] at h
    obtain ⟨g', after, mem⟩ := exists_of_mem_wanted h
    rw [group?_modifyGroup] at after
    obtain ⟨g, known, rfl⟩ := Option.map_eq_some_iff.1 after
    rw [wanted_of_group known]
    split at mem
    · exact mem_edit edits mem
    · exact .inl mem
  · rw [same] at h
    exact .inl h
  · rw [wanted_change_of_edit (fun _ _ edits => nomatch request.symm.trans edits)] at h
    exact .inl h

theorem mem_wanted_changes {cs : List Change} (h : light ∈ (s.changes cs).wanted kind) :
    light ∈ s.wanted kind ∨ ∃ c ∈ cs, c.Adds light := by
  induction cs generalizing s with
  | nil => exact .inl h
  | cons c rest ih =>
    rcases ih h with before | ⟨c', mem, adds⟩
    · rcases mem_wanted_change before with before | adds
      · exact .inl before
      · exact .inr ⟨c, List.mem_cons_self .., adds⟩
    · exact .inr ⟨c', List.mem_cons_of_mem _ mem, adds⟩

/-- The bridge adds nothing to what is wanted. -/
theorem mem_wanted_update {u : Update} (h : light ∈ (s.update settings u).wanted kind) :
    light ∈ s.wanted kind := by
  obtain ⟨g', after, mem⟩ := exists_of_mem_wanted h
  have empty (g : Group) (none : g.lights.members = ∅) (mem : light ∈ g.lights.members) : False :=
    NameSet.not_mem_empty (none ▸ mem)
  cases known : s.group? kind with
  | none =>
    -- Only a listing makes a group known, and it begins its membership anew.
    cases u with
    | groups groups =>
      rw [group?_update_groups] at after
      obtain ⟨listed, -, rfl⟩ := Option.map_eq_some_iff.1 after
      exact (empty _ rfl mem).elim
    | allOff =>
      rw [group?_update_allOff, known] at after
      cases after
    | lights lights =>
      rw [group?_update_lights, known] at after
      cases after
    | membership =>
      rw [group?_update_membership, known] at after
      cases after
    | values =>
      rw [group?_update_values, known] at after
      cases after
  | some g =>
    rw [wanted_of_group known]
    rcases group_update_cases known after with
      ⟨-, rfl⟩ | rfl | ⟨_, listed, -, rfl⟩ | ⟨_, confirmed, -, rfl⟩ | ⟨_, _, _, _, -, rfl, -⟩
    · exact (empty _ rfl mem).elim
    · exact mem
    · exact (empty _ rfl mem).elim
    · rwa [Cell.members, Cell.value_confirm] at mem
    · exact mem

end State
end Reconciler

namespace Household

open Bridge (GroupKind)
open Reconciler (State Change)

variable {σ : Type} (h : Household σ)

/-! ## Entities for which a light may be tracked -/

/-- The entity is not excluded, and stands for this light. -/
structure TracksLight (entityId : String) (e : Entity) (light : String) : Prop where
  automatic : h.settings.isAutomatic entityId = true
  plain : e.isBridgeGroup = false
  hardware : ∃ uniqueId, e.uniqueId = some uniqueId ∧
    h.sync.state.numberOfId? uniqueId = some light

/-- The entity is not excluded, and stands for a group of the bridge that has this light. -/
structure TracksGroup (entityId : String) (e : Entity) (light : String) : Prop where
  automatic : h.settings.isAutomatic entityId = true
  group : e.isBridgeGroup = true
  member : ∃ lights, h.sync.state.groupLights? e.name = some lights ∧ light ∈ lights

variable {h} {c : Change} {light : String}

theorem tracksLight_of_trackable {e : Entity} {uniqueId : String}
    (trackable : h.isTrackable e = true) (hardware : e.uniqueId = some uniqueId)
    (number : h.sync.state.numberOfId? uniqueId = some light) :
    h.TracksLight e.entityId e light := by
  rw [isTrackable, Bool.and_eq_true, Bool.and_eq_true, Bool.not_eq_true'] at trackable
  exact ⟨trackable.2, trackable.1.2, uniqueId, hardware, number⟩

variable [Host σ]

/-- Turning the entity on may start tracking of this light. -/
def TurnsOn (h : Household σ) (entityId light : String) : Prop :=
  ∃ e, Host.entity? h.host entityId = some e ∧
    (h.TracksLight entityId e light ∨ h.TracksGroup entityId e light)

/-- An entity that the home platform knows stands for this light, and is not excluded. -/
def KnowsTrackable (h : Household σ) (light : String) : Prop :=
  ∃ e ∈ Host.entities h.host, h.TracksLight e.entityId e light

theorem exists_of_adds_changes {d : Decision} {lights : Option NameSet}
    (mem : c ∈ d.changes lights) (adds : c.Adds light) :
    ∃ known, lights = some known ∧ light ∈ known := by
  have one (t : Tracking) (kind : GroupKind) (known : NameSet) (mem : c ∈ t.changes kind known) :
      light ∈ known := by
    cases t with
    | start =>
      rw [Tracking.changes, List.mem_singleton] at mem
      subst mem
      exact adds
    | stop =>
      rw [Tracking.changes, List.mem_singleton] at mem
      subst mem
      exact adds.elim
    | keep => cases mem
  cases lights with
  | none => cases mem
  | some known =>
    refine ⟨known, rfl, ?_⟩
    rcases List.mem_append.1 mem with mem | mem
    · exact one _ .brightness known mem
    · exact one _ .temperature known mem

theorem turnsOn_of_asked {entityId : String} {params : LightParams}
    (mem : c ∈ h.asked (.turnOn entityId params)) (adds : c.Adds light) :
    h.TurnsOn entityId light := by
  unfold asked at mem
  cases found : Host.entity? h.host entityId with
  | none =>
    simp only [HostCall.entityId, found] at mem
    cases mem
  | some e =>
    simp only [HostCall.entityId, found] at mem
    split at mem
    · next automatic =>
      obtain ⟨lights, known, mem⟩ := exists_of_adds_changes mem adds
      unfold State.lightsOf? at known
      refine ⟨e, found, ?_⟩
      split at known
      · next group => exact .inr ⟨automatic, group, lights, known, mem⟩
      · next plain =>
        obtain ⟨number, found, rfl⟩ := Option.map_eq_some_iff.1 known
        obtain ⟨uniqueId, hardware, number⟩ := Option.bind_eq_some_iff.1 found
        cases NameSet.mem_singleton.1 mem
        exact .inl ⟨automatic, Bool.eq_false_iff.2 plain, uniqueId, hardware, number⟩
    · cases mem

theorem knowsTrackable_of_pushes (mem : c ∈ h.pushes) (adds : c.Adds light) :
    h.KnowsTrackable light := by
  have follower {follows : Entity → Bool} (mem : light ∈ h.followers follows) :
      h.KnowsTrackable light := by
    obtain ⟨e, known, here⟩ := List.mem_filterMap.1 (NameSet.mem_ofList.1 mem)
    split at here
    · next follows =>
      obtain ⟨uniqueId, hardware, number⟩ := Option.bind_eq_some_iff.1 here
      exact ⟨e, known, tracksLight_of_trackable (Bool.and_eq_true_iff.1 follows).1 hardware number⟩
    · cases here
  simp only [pushes, List.mem_cons, List.not_mem_nil, or_false] at mem
  rcases mem with rfl | rfl | rfl | rfl
  · exact follower adds
  · exact follower adds
  · exact adds.elim
  · exact adds.elim

/-! ## Lights that come to be wanted -/

namespace DrivenHouse

/-- The entities for which a light may come to be wanted in a happening. -/
def AddsFor (h : DrivenHouse σ) (light : String) : Happening σ → Prop
  | .operation (.turnOn entityId _) => h.house.TurnsOn entityId light
  | .operation (.autoOn call) => ∃ done entityId rest between,
    call.entityIds = done ++ entityId :: rest ∧
      h.house.turnOnAll call.params done = (between, .ok ()) ∧ between.TurnsOn entityId light
  | .operation (.entityAdded e) => h.house.TracksLight e.entityId e light
  | .operation .pushDesired | .answer _ _ => h.house.KnowsTrackable light
  | _ => False

theorem addsFor_of_asks {h : DrivenHouse σ} {op : Operation} (asks : h.house.Asks op c)
    (adds : c.Adds light) : h.AddsFor light (.operation op) := by
  cases asks with
  | turnOn asked => exact turnsOn_of_asked asked adds
  | autoOn ids before asked => exact ⟨_, _, _, _, ids, before, turnsOn_of_asked asked adds⟩
  | entityAdded kind trackable hardware number =>
    cases NameSet.mem_singleton.1 adds
    exact tracksLight_of_trackable trackable hardware number
  | pushDesired pushed => exact knowsTrackable_of_pushes pushed adds
  | turnOff | dim | brightnessChanged | temperatureChanged | entityRemoved | expireTimer | runLoop |
    reload | allOff => exact adds.elim

/-- A light that was not wanted before a happening, and is after it, was added for an entity. -/
theorem addsFor_of_added {h : DrivenHouse σ} {e : Happening σ} {kind : GroupKind}
    (before : light ∉ h.state.wanted kind) (after : light ∈ (h.proceed e).state.wanted kind) :
    h.AddsFor light e := by
  cases e with
  | operation op =>
    obtain ⟨cs, becomes, asks⟩ := h.house.becomes_operate op
    have made : (h.proceed (.operation op)).state.wanted kind = (h.state.changes cs).wanted kind :=
      State.wanted_congr becomes.state kind
    rw [made] at after
    rcases State.mem_wanted_changes after with mem | ⟨c, mem, adds⟩
    · exact absurd mem before
    · exact addsFor_of_asks (asks c mem) adds
  | host host => exact absurd after before
  | go d =>
    have same : (h.proceed (.go d)).state.wanted kind = h.state.wanted kind :=
      State.wanted_congr (h.scene.unclaimed_next (.go d)) kind
    exact absurd (same ▸ after) before
  | answer d answer =>
    rcases h.answer_cases d answer with ⟨-, u, -, loaded⟩ | ⟨-, same | ⟨u, -, updated⟩⟩
    · rw [State.wanted_congr loaded kind] at after
      rcases State.mem_wanted_changes after with mem | ⟨c, mem, adds⟩
      · exact absurd (State.mem_wanted_update mem) before
      · unfold heard at mem
        split at mem
        · exact knowsTrackable_of_pushes mem adds
        · cases mem
    · exact absurd (State.wanted_congr same kind ▸ after) before
    · exact absurd (State.mem_wanted_update (State.wanted_congr updated kind ▸ after)) before

/-- From its beginning on, a household wants a light in a managed group only after a happening that
added it for an entity that is not excluded, and every happening that adds a light does so. -/
theorem light_added_for_automatic_entity (settings : HouseSettings) (sync : SyncSettings)
    (wording : Wording)
    (host : σ) (events : List (Happening σ)) (kind : GroupKind) (light : String) :
    let start := new settings sync wording host
    (∀ before e later, events = before ++ e :: later →
      light ∉ (start.proceedAll before).state.wanted kind →
      light ∈ ((start.proceedAll before).proceed e).state.wanted kind →
      (start.proceedAll before).AddsFor light e) ∧
    (light ∈ (start.proceedAll events).state.wanted kind →
      ∃ before e later, events = before ++ e :: later ∧
        light ∉ (start.proceedAll before).state.wanted kind ∧
        (start.proceedAll before).AddsFor light e) := by
  intro start
  refine ⟨fun before e later _ => addsFor_of_added, ?_⟩
  -- The last happening added the light, or it was wanted before.
  induction events using List.reverseRecOn with
  | nil => exact fun wanted => absurd wanted (by cases kind <;> exact NameSet.not_mem_empty)
  | append_singleton events e ih =>
    intro wanted
    by_cases already : light ∈ (start.proceedAll events).state.wanted kind
    · obtain ⟨before, e', later, rfl, added⟩ := ih already
      exact ⟨before, e', later ++ [e], by simp, added⟩
    · have last : start.proceedAll (events ++ [e]) = (start.proceedAll events).proceed e :=
        List.foldl_append
      rw [last] at wanted
      exact ⟨events, e, [], rfl, already, addsFor_of_added already wanted⟩

/-- A home with a living room, which is a group of the bridge, and an excluded light in it. -/
def livingRoom : Simulation.ScriptedHost :=
  .ofEntities [.light "light.sofa" "five" "Sofa", .light "light.veranda" "seven" "Veranda",
    .bridgeGroup "light.living" "Living"]

/-- Its lights and groups are listed. -/
def livingRoomListed : List (Happening Simulation.ScriptedHost) := [
  .go (.hand 0), .answer (.hand 0) (.ok ⟨200, .obj [
    ("5", .obj [("name", .str "Sofa"), ("uniqueid", .str "five")]),
    ("7", .obj [("name", .str "Veranda"), ("uniqueid", .str "seven")])]⟩),
  .go (.hand 0), .answer (.hand 0) (.ok ⟨200, .obj [
    ("1", .obj [("name", .str "Auto Brightness")]),
    ("2", .obj [("name", .str "Auto Temperature")]),
    ("3", .obj [("name", .str "Living"), ("lights", .strings ["5", "7"])])]⟩)]

/-- The sofa comes to be tracked when its group is turned on. -/
theorem light_added_for_automatic_entity_of_group :
    let start := new .default .manual .brief livingRoom
    let e : Happening _ := .operation (.turnOn "light.living" .none)
    let h := start.proceedAll livingRoomListed
    "5" ∉ h.state.wanted .brightness ∧ "5" ∈ (h.proceed e).state.wanted .brightness ∧
      h.AddsFor "5" e ∧ ∃ before e' later, livingRoomListed ++ [e] = before ++ e' :: later ∧
        "5" ∉ (start.proceedAll before).state.wanted .brightness ∧
        (start.proceedAll before).AddsFor "5" e' := by
  intro start e h
  have before : "5" ∉ h.state.wanted .brightness := by decide +kernel
  have after : "5" ∈ (h.proceed e).state.wanted .brightness := by decide +kernel
  have both := light_added_for_automatic_entity .default .manual .brief livingRoom
    (livingRoomListed ++ [e]) .brightness "5"
  exact ⟨before, after, both.1 livingRoomListed e [] rfl before after, both.2 after⟩

/-- So does the veranda, whose own entity is excluded. -/
theorem excluded_light_added_with_group :
    let h := (new .default .manual .brief livingRoom).proceedAll livingRoomListed
    let after := h.proceed (.operation (.turnOn "light.living" .none))
    let veranda := Entity.light "light.veranda" "seven" "Veranda"
    veranda ∈ Host.entities h.house.host ∧ veranda.isBridgeGroup = false ∧
      h.house.settings.isAutomatic veranda.entityId = false ∧
      veranda.uniqueId.bind h.state.numberOfId? = some "7" ∧
      ∀ kind, "7" ∉ h.state.wanted kind ∧ "7" ∈ after.state.wanted kind := by
  intro h after veranda
  refine ⟨by decide +kernel, rfl, by decide +kernel, by decide +kernel, fun kind => ?_⟩
  cases kind with
  | brightness => decide +kernel
  | temperature => decide +kernel

end DrivenHouse
end Household
end LightSync
