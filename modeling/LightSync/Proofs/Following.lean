import LightSync.Proofs.KnownLights
import LightSync.Proofs.Reload

/-!
# Which lights follow the desired values

A household finds out which lights follow the desired values in two ways: all at once, when it
pushes everything desired, and entity by entity, as the home platform reports them. Where nothing is
tracked yet, both find the same lights, in whatever order and however often the entities are
reported: the lights behind the entities that may be tracked and whose values are close enough.

## Main definitions

- `State.IsFirst`: the first light with a hardware id
- `Household.Follows`: a light follows a desired value, as an entity reports it
- `Household.reception`: what a report of an entity decides about tracking
- `Household.SameView`: households that see the same lights follow
-/

namespace LightSync

open Bridge (GroupKind Group Light bridgeOrder)

namespace Reconciler.State

variable {s : State}

/-- A light is the first one with a hardware id. -/
def IsFirst (s : State) (uniqueId : String) (l : Light) : Prop :=
  l.uniqueId = uniqueId ∧ ∃ before after, s.allLights = before ++ l :: after ∧
    ∀ l' ∈ before, l'.uniqueId ≠ uniqueId

theorem IsFirst.mem {uniqueId : String} {l : Light} (h : s.IsFirst uniqueId l) :
    l ∈ s.allLights := by
  obtain ⟨-, before, after, all, -⟩ := h
  exact all ▸ List.mem_append_right _ (List.mem_cons_self ..)

theorem numberOfId?_eq_some_iff {uniqueId number : String} :
    s.numberOfId? uniqueId = some number ↔ ∃ l, s.IsFirst uniqueId l ∧ l.number = number := by
  rw [numberOfId?, Option.map_eq_some_iff]
  refine exists_congr fun l => and_congr_left' ?_
  rw [light?, List.find?_eq_some_iff_append, decide_eq_true_eq, IsFirst]
  simp only [Bool.not_eq_true', decide_eq_false_iff_not, ne_eq]

/-- What a push of both memberships and both values makes of two different groups. -/
theorem wanted_changes_push (groups : s.TwoGroups) (bright warm : NameSet) (value : UInt8)
    (mirek : UInt16) (kind : GroupKind) :
    (s.changes [.setLights .brightness bright, .setLights .temperature warm, .setBrightness value,
      .setTemperature mirek]).wanted kind = match kind with
        | .brightness => bright
        | .temperature => warm := by
  obtain ⟨first, second⟩ := group?_changes_push groups.apart bright warm value mirek
  have members (c : Cell NameSet) (lights : NameSet) : (c.set lights).1.members = lights := by
    rw [Cell.members, Cell.value_set]
    rfl
  obtain ⟨g, known⟩ := Option.isSome_iff_exists.1 (groups.known kind)
  cases kind with
  | brightness =>
    rw [known] at first
    rw [wanted_of_group first]
    exact members g.lights bright
  | temperature =>
    rw [known] at second
    rw [wanted_of_group second]
    exact members g.lights warm

end Reconciler.State

namespace Household

open Reconciler (State Scene Change)

variable {σ : Type}

/-- The value that an entity reports. -/
def Entity.value? (e : Entity) : GroupKind → Option Nat
  | .brightness => e.brightness.map (·.toNat)
  | .temperature => e.colorTemp.map (·.toNat)

/-- An entity reports that a light follows a desired value: the entity is on, stands for a single
light and is not excluded, the light is the first one with its hardware id, and the value is there
and close enough to the desired one. -/
structure Follows (h : Household σ) (kind : GroupKind) (e : Entity) (number : String) : Prop where
  on : e.isOn = true
  single : e.isBridgeGroup = false
  automatic : h.settings.isAutomatic e.entityId = true
  light : ∃ uniqueId l, e.uniqueId = some uniqueId ∧ h.sync.state.IsFirst uniqueId l ∧
    l.number = number
  near : ∃ v, e.value? kind = some v ∧
    ((v : Int) - h.desired.value kind).natAbs < h.settings.closeEnough.toNat

/-- Does an entity report a value that is close enough to the desired one? -/
def near (h : Household σ) (kind : GroupKind) (e : Entity) : Bool :=
  match kind with
  | .brightness => h.followsBrightness e
  | .temperature => h.followsTemperature e

theorem near_iff {h : Household σ} {kind : GroupKind} {e : Entity} :
    h.near kind e = true ↔ ∃ v, e.value? kind = some v ∧
      ((v : Int) - h.desired.value kind).natAbs < h.settings.closeEnough.toNat := by
  cases kind with
  | brightness =>
    cases value : e.brightness <;>
      simp [near, followsBrightness, closeEnough, Entity.value?, Desired.value, value]
  | temperature =>
    cases value : e.colorTemp <;>
      simp [near, followsTemperature, closeEnough, Entity.value?, Desired.value, value]

/-- A light follows a value exactly if its entity is looked at, found, and near. -/
theorem follows_iff {h : Household σ} {kind : GroupKind} {e : Entity} {number : String} :
    h.Follows kind e number ↔ h.isTrackable e = true ∧ h.near kind e = true ∧
      e.uniqueId.bind h.sync.state.numberOfId? = some number := by
  rw [near_iff, isTrackable, Bool.and_eq_true, Bool.and_eq_true, Bool.not_eq_true',
    Option.bind_eq_some_iff]
  simp only [State.numberOfId?_eq_some_iff]
  constructor
  · rintro ⟨on, single, automatic, ⟨uniqueId, l, hardware, first, number⟩, near⟩
    exact ⟨⟨⟨on, single⟩, automatic⟩, near, uniqueId, hardware, l, first, number⟩
  · rintro ⟨⟨⟨on, single⟩, automatic⟩, near, uniqueId, hardware, l, first, number⟩
    exact ⟨on, single, automatic, ⟨uniqueId, l, hardware, first, number⟩, near⟩

/-! ## Entity by entity -/

/-- What a report of an entity decides about tracking: what is near is tracked. -/
def reception (h : Household σ) (e : Entity) : Decision :=
  let track (kind : GroupKind) : Tracking := if h.near kind e then .start else .keep
  ⟨track .brightness, track .temperature, false, false, false⟩

/-- The light behind an entity that may be tracked by itself. -/
def trackableLight (h : Household σ) (e : Entity) : Option NameSet :=
  if h.isTrackable e then (e.uniqueId.bind h.sync.state.numberOfId?).map .singleton else none

theorem becomes_reception (h : Household σ) (e : Entity) :
    h.Becomes (h.entityAdded e) ((h.reception e).changes (h.trackableLight e)) := by
  have maybe (h' : Household σ) (kind : GroupKind) (follows : Bool) (lights : NameSet) :
      h'.Becomes (if follows then h'.change (.addLights kind lights.toList) else h')
        ((if follows then Tracking.start else .keep).changes kind lights) := by
    split
    · exact h'.becomes_change _
    · exact .refl h'
  unfold entityAdded trackableLight
  cases trackable : h.isTrackable e with
  | false => exact .refl h
  | true =>
    cases hardware : e.uniqueId with
    | none => exact .refl h
    | some uniqueId =>
      cases found : h.sync.state.numberOfId? uniqueId with
      | none =>
        simp only [Reconciler.lightsOfId, found, if_true, Option.bind_some, Option.map_none]
        exact ⟨rfl, rfl, rfl⟩
      | some number =>
        simp only [Reconciler.lightsOfId, found, if_true, Option.bind_some, Option.map_some]
        exact (maybe h .brightness (h.followsBrightness e) _).trans
          (maybe _ .temperature (h.followsTemperature e) _)

/-- Households that know the same lights and want the same see the same lights follow. -/
structure SameView (h h' : Household σ) : Prop where
  settings : h'.settings = h.settings
  desired : h'.desired = h.desired
  lights : h'.sync.state.lights = h.sync.state.lights

theorem SameView.follows {h h' : Household σ} (same : h.SameView h') {kind : GroupKind} {e : Entity}
    {number : String} : h'.Follows kind e number ↔ h.Follows kind e number := by
  have first (uniqueId : String) (l : Light) :
      h'.sync.state.IsFirst uniqueId l ↔ h.sync.state.IsFirst uniqueId l := by
    rw [State.IsFirst, State.IsFirst, State.allLights, State.allLights, same.lights]
  constructor
  · rintro ⟨on, single, automatic, light, near⟩
    simp only [first, same.settings, same.desired] at automatic light near
    exact ⟨on, single, automatic, light, near⟩
  · rintro ⟨on, single, automatic, light, near⟩
    simp only [← first, ← same.settings, ← same.desired] at automatic light near
    exact ⟨on, single, automatic, light, near⟩

theorem sameView_of_becomes {h h' : Household σ} {cs : List Change} (becomes : h.Becomes h' cs) :
    h.SameView h' where
  settings := becomes.settings
  desired := becomes.desired
  lights := (congrArg State.lights becomes.state :).trans (State.lights_changes _ cs)

/-- A report of an entity adds the light that follows, as the entity reports it. -/
theorem mem_wanted_entityAdded {h : Household σ} (groups : h.sync.state.TwoGroups)
    (numbered : ∀ l ∈ h.sync.state.allLights, l.number ≠ "") (e : Entity) (kind : GroupKind)
    (light : String) : light ∈ (h.entityAdded e).sync.state.wanted kind ↔
      light ∈ h.sync.state.wanted kind ∨ h.Follows kind e light := by
  rw [State.wanted_congr (h.becomes_reception e).state, trackableLight, follows_iff]
  cases trackable : h.isTrackable e with
  | false => exact (or_iff_left fun ⟨no, _⟩ => nomatch no).symm
  | true =>
    cases found : e.uniqueId.bind h.sync.state.numberOfId? with
    | none => exact (or_iff_left fun ⟨_, _, no⟩ => nomatch no).symm
    | some number =>
      have nonempty : number ≠ "" := by
        obtain ⟨uniqueId, -, found⟩ := Option.bind_eq_some_iff.1 found
        obtain ⟨l, first, rfl⟩ := State.numberOfId?_eq_some_iff.1 found
        exact numbered l first.mem
      refine (mem_wanted_decision groups nonempty (h.reception e) kind).trans ?_
      have decides : (h.reception e).tracking kind =
          if h.near kind e then .start else .keep := by cases kind <;> rfl
      rw [decides, Option.some.injEq, eq_comm (a := number)]
      cases h.near kind e with
      | true => exact or_comm.trans (or_congr_right (by simp))
      | false => exact (or_iff_left fun ⟨_, no, _⟩ => nomatch no).symm

/-- Reports of entities, in any order, add the lights that follow. -/
theorem mem_wanted_foldl_entityAdded {h : Household σ} (groups : h.sync.state.TwoGroups)
    (numbered : ∀ l ∈ h.sync.state.allLights, l.number ≠ "") (calls : List Entity)
    (kind : GroupKind) (light : String) :
    light ∈ (calls.foldl entityAdded h).sync.state.wanted kind ↔
      light ∈ h.sync.state.wanted kind ∨ ∃ e ∈ calls, h.Follows kind e light := by
  induction calls generalizing h with
  | nil => exact (or_iff_left fun ⟨_, no, _⟩ => nomatch no).symm
  | cons e rest ih =>
    have becomes := h.becomes_reception e
    have same := sameView_of_becomes becomes
    have groups' : (h.entityAdded e).sync.state.TwoGroups :=
      (groups.rewanted (h.sync.state.rewanted_changes _)).congr becomes.state.symm
    have numbered' : ∀ l ∈ (h.entityAdded e).sync.state.allLights, l.number ≠ "" := by
      rw [State.allLights, same.lights]
      exact numbered
    rw [List.foldl_cons, ih groups' numbered', mem_wanted_entityAdded groups numbered, or_assoc]
    simp only [same.follows, List.mem_cons, exists_eq_or_imp]

/-! ## All at once -/

variable [Host σ]

theorem mem_followers {h : Household σ} {kind : GroupKind} {light : String} :
    light ∈ h.followers (h.near kind) ↔
      ∃ e ∈ Host.entities h.host, h.Follows kind e light := by
  rw [followers, NameSet.mem_ofList, List.mem_filterMap]
  refine exists_congr fun e => and_congr_right fun _ => ?_
  rw [follows_iff]
  by_cases both : (h.isTrackable e && h.near kind e) = true
  · obtain ⟨trackable, near⟩ := Bool.and_eq_true_iff.1 both
    rw [if_pos both, and_iff_right trackable, and_iff_right near]
  · rw [if_neg both]
    refine iff_of_false (Option.some_ne_none light).symm ?_
    rintro ⟨trackable, near, -⟩
    exact both (Bool.and_eq_true_iff.2 ⟨trackable, near⟩)

/-- A push wants exactly the lights that follow. -/
theorem wanted_pushDesired {h : Household σ} (groups : h.sync.state.TwoGroups) (kind : GroupKind) :
    h.pushDesired.sync.state.wanted kind = h.followers (h.near kind) := by
  rw [State.wanted_congr h.becomes_pushDesired.state, pushes, State.wanted_changes_push groups]
  cases kind <;> rfl

/-- Where nothing is tracked yet, a push and a report of each entity, in any order and however
often, want the same lights: those that follow, as one of the entities reports it. The first light
with a hardware id is the first in bridge order. -/
theorem push_agrees_with_reports {h : Household σ} (groups : h.sync.state.TwoGroups)
    (untracked : ∀ kind, h.sync.state.wanted kind = ∅)
    (numbered : ∀ l ∈ h.sync.state.allLights, l.number ≠ "") {calls : List Entity}
    (each : ∀ e, e ∈ calls ↔ e ∈ Host.entities h.host) (kind : GroupKind) :
    h.pushDesired.sync.state.wanted kind = (calls.foldl entityAdded h).sync.state.wanted kind ∧
    (∀ light, light ∈ h.pushDesired.sync.state.wanted kind ↔
      ∃ e ∈ Host.entities h.host, h.Follows kind e light) ∧
    ∀ settings wording events, h.sync.state = ((Scene.new settings wording).run events).state →
      h.sync.state.allLights.Pairwise fun a b => bridgeOrder a.number b.number = .lt := by
  have pushed (light : String) : light ∈ h.pushDesired.sync.state.wanted kind ↔
      ∃ e ∈ Host.entities h.host, h.Follows kind e light := by
    rw [wanted_pushDesired groups, mem_followers]
  refine ⟨NameSet.ext fun light => ?_, pushed, fun settings wording events reached => ?_⟩
  · have nothing : light ∉ h.sync.state.wanted kind := by
      rw [untracked]
      exact NameSet.not_mem_empty
    rw [pushed, mem_wanted_foldl_entityAdded groups numbered, or_iff_right nothing]
    simp only [each]
  · rw [reached]
    exact Scene.lights_ascending_run settings wording events

/-- A lamp that is as bright as wanted, and nearly as warm. -/
def nearLamp : Entity := (Entity.light "light.lamp" "five" "Lamp").on (some 246) (some 209)

/-- A lamp of which no color temperature is known, and whose brightness is a bit too far away. -/
def farLamp : Entity := (Entity.light "light.other" "six" "Other").on (some 245) none

/-- A household with both lamps, where two lights have the hardware id of the first one. -/
def twoLamps : Household Simulation.ScriptedHost :=
  let h := Household.new .default (.ofEntities [nearLamp, farLamp]) (.new .manual .brief)
  let listed : State := { State.empty with
    lights := some [⟨"5", "Lamp", "five"⟩, ⟨"6", "Other", "six"⟩, ⟨"10", "Twin", "five"⟩] }
  let groups := [.listed "1" "Auto Brightness" ∅, .listed "2" "Auto Temperature" ∅]
  { h with sync := { h.sync with state := listed.update h.sync.settings (.groups groups) } }

theorem push_agrees_with_reports_of_two_lamps :
    let reported := [farLamp, nearLamp, farLamp].foldl entityAdded twoLamps
    twoLamps.pushDesired.sync.state.wanted .brightness = reported.sync.state.wanted .brightness ∧
    twoLamps.pushDesired.sync.state.wanted .temperature =
      reported.sync.state.wanted .temperature ∧
    reported.sync.state.wanted .brightness = .ofList ["5"] ∧
    ∃ e ∈ Host.entities twoLamps.host, twoLamps.Follows .temperature e "5" := by
  intro reported
  have groups : twoLamps.sync.state.TwoGroups :=
    ⟨fun kind => by cases kind <;> decide +kernel, by decide +kernel⟩
  have untracked (kind : GroupKind) : twoLamps.sync.state.wanted kind = ∅ := by
    cases kind <;> decide +kernel
  have numbered : ∀ l ∈ twoLamps.sync.state.allLights, l.number ≠ "" := by decide +kernel
  have known : Host.entities twoLamps.host = [nearLamp, farLamp] := by decide +kernel
  have each (e : Entity) :
      e ∈ [farLamp, nearLamp, farLamp] ↔ e ∈ Host.entities twoLamps.host := by
    rw [known]
    simp only [List.mem_cons, List.not_mem_nil, or_false]
    grind
  obtain ⟨bright, -, -⟩ := push_agrees_with_reports groups untracked numbered each .brightness
  obtain ⟨warm, pushed, -⟩ := push_agrees_with_reports groups untracked numbered each .temperature
  exact ⟨bright, warm, by decide +kernel, (pushed "5").1 (by decide +kernel)⟩

end Household
end LightSync
