import LightSync.Proofs.Convergence
import LightSync.Proofs.KnownLights
import LightSync.Proofs.Reload
import Mathlib.Data.List.Forall2
import Mathlib.Data.List.Induction

/-!
# Who hears that the managed groups were loaded

Whoever waits for the managed groups is told once for each listing of groups that is taken in with
both of them, and meets these groups. Groups are listed only when the lights were listed before and
are not to be listed again, and lights once listed stay known.

## Main definitions

- `Scene.told`: what whoever waits for the managed groups meets in a run
- `Scene.found`: the listings of a run that have both managed groups
- `Scene.PlannedIn`: where the step whose request is under way was planned
-/

namespace LightSync

open Bridge (Group GroupKind Answer)

/-- Does a listing of groups have both managed ones? -/
def SyncSettings.findsIn (settings : SyncSettings) (body : Json) : Bool :=
  match Group.ofListing body with
  | .ok listed => settings.finds listed
  | .error _ => false

namespace Reconciler.Scene

/-! ## Requests under way -/

/-- The step of a driver whose request is under way after some events was planned in a state: there
the driver went on, and it has waited for the answer since. -/
def PlannedIn (s : Scene) (events : List Event) (d : Driver) (plan : Plan) (t : State) : Prop :=
  ∃ first later, events = first ++ .go d :: later ∧ t = (s.run first).state ∧
    (s.run first).underway d = none ∧ t.plan s.sync.settings = some plan ∧
    ∀ m, m <+: later → (s.run (first ++ .go d :: m)).underway d = some plan

variable {s : Scene} {d : Driver} {plan : Plan}

theorem run_append (s : Scene) (first later : List Event) :
    s.run (first ++ later) = (s.run first).run later := List.foldl_append

theorem settings_run (s : Scene) (events : List Event) :
    (s.run events).sync.settings = s.sync.settings := by
  induction events generalizing s with
  | nil => rfl
  | cons e rest ih => exact (ih (s.next e)).trans (s.settings_next e)

/-- A request that is under way was so before, or was planned just now. -/
theorem underway_next_cases {e : Event} (busy : (s.next e).underway d = some plan) :
    s.underway d = some plan ∨
      e = .go d ∧ s.underway d = none ∧ s.state.plan s.sync.settings = some plan := by
  cases e with
  | change canRun c => exact .inl ((s.underway_change canRun c d).symm.trans busy)
  | go d' =>
    by_cases mine : d = d'
    · subst mine
      rcases s.underway_go_self d with same | ⟨idle, planned⟩
      · exact .inl (same.symm.trans busy)
      · exact .inr ⟨rfl, idle, planned.symm.trans busy⟩
    · exact .inl ((s.underway_go_of_ne mine).symm.trans busy)
  | answer d' answer canRun heard =>
    rw [underway_answer] at busy
    split at busy
    · cases busy
    · exact .inl busy

/-- Every request that is under way was planned in the course of the run. -/
theorem plannedIn_of_underway (idle : s.underway d = none) {events : List Event}
    (busy : (s.run events).underway d = some plan) : ∃ t, s.PlannedIn events d plan t := by
  induction events using List.reverseRecOn with
  | nil => exact nomatch idle.symm.trans busy
  | append_singleton events e ih =>
    have last : ((s.run events).next e).underway d = some plan := by
      rw [run_append] at busy
      exact busy
    rcases underway_next_cases last with before | ⟨rfl, free, planned⟩
    · obtain ⟨t, first, later, rfl, here, free, planned, waiting⟩ := ih before
      refine ⟨t, first, later ++ [e], by simp, here, free, planned, fun m early => ?_⟩
      rcases List.prefix_concat_iff.1 early with whole | early
      · rw [whole]
        simpa using busy
      · exact waiting m early
    · rw [settings_run] at planned
      refine ⟨(s.run events).state, events, [], rfl, rfl, free, planned, fun m early => ?_⟩
      rw [List.prefix_nil.1 early]
      exact busy

/-! ## Who is told -/

/-- What whoever waits for the managed groups meets in an event. -/
def toldIn (s : Scene) : Event → List State
  | .answer d answer _ _ => (s.underway d).elim [] (s.sync.told · answer)
  | _ => []

/-- What whoever waits for the managed groups meets in a run. -/
def told (s : Scene) : List Event → List State
  | [] => []
  | e :: events => s.toldIn e ++ told (s.next e) events

/-- The listing of groups that is taken in with an event, if it has both managed ones. -/
def foundIn (s : Scene) (e : Event) : List Json :=
  ((s.listingIn e).filter s.sync.settings.findsIn).toList

/-- The listings of groups with both managed ones that are taken in during a run. -/
def found (s : Scene) : List Event → List Json
  | [] => []
  | e :: events => s.foundIn e ++ found (s.next e) events

/-- Whoever is told meets the groups of a listing. -/
def Meets (settings : SyncSettings) (t : State) (body : Json) : Prop :=
  ∃ listed, Group.ofListing body = .ok listed ∧ t.Lists settings listed

/-- For each listing that is taken in with both managed groups, the one who waits is told once. -/
theorem told_meets_found (s : Scene) (e : Event) :
    List.Forall₂ (Meets s.sync.settings) (s.toldIn e) (s.foundIn e) := by
  cases e with
  | change canRun c => exact .nil
  | go d => exact .nil
  | answer d answer canRun heard =>
    cases waiting : s.underway d with
    | none =>
      simp only [toldIn, foundIn, listingIn, waiting]
      exact .nil
    | some plan =>
      simp only [toldIn, foundIn, listingIn, waiting, Option.elim_some, Option.bind_some]
      cases read : plan.read answer with
      | error failure =>
        rw [told_of_error read, Plan.listing?_of_error read]
        exact .nil
      | ok u =>
        rw [told_of_ok read]
        rcases (Plan.read_eq_ok_iff.1 read).listing? with
          ⟨body, listed, brings, decoded, rfl⟩ | ⟨nothing, other⟩
        · have finds : s.sync.settings.findsIn body = s.sync.settings.finds listed := by
            rw [SyncSettings.findsIn, decoded]
          rw [brings, State.isReady_update_groups, Option.filter_some, finds]
          simp only [Update.loads, Bool.true_and]
          split
          · exact .cons ⟨listed, decoded, s.sync.state.lists_update_groups _ listed⟩ .nil
          · exact .nil
        · have quiet : u.loads = false := by
            cases u with
            | groups groups => exact absurd rfl (other groups)
            | allOff | lights | membership | values => rfl
          rw [nothing, quiet]
          exact .nil

theorem told_meets_found_run (s : Scene) (events : List Event) :
    List.Forall₂ (Meets s.sync.settings) (s.told events) (s.found events) := by
  induction events generalizing s with
  | nil => exact .nil
  | cons e rest ih =>
    have later := ih (s.next e)
    rw [settings_next] at later
    exact List.rel_append (s.told_meets_found e) later

/-- Whoever is told meets the lights that were known when a listing of groups was taken in. -/
theorem loadGroups_of_told {answer : Answer} {canRun : Bool} {heard : List Change} {t : State}
    (tells : t ∈ s.toldIn (.answer d answer canRun heard)) :
    s.underway d = some .loadGroups ∧ t.lights = s.state.lights := by
  cases waiting : s.underway d with
  | none =>
    simp only [toldIn, waiting] at tells
    cases tells
  | some plan =>
    simp only [toldIn, waiting, Option.elim_some] at tells
    cases read : plan.read answer with
    | error failure =>
      rw [told_of_error read] at tells
      cases tells
    | ok u =>
      rw [told_of_ok read] at tells
      split at tells
      · next both =>
        have loads := (Bool.and_eq_true_iff.1 both).1
        have plan := (Plan.read_eq_ok_iff.1 read).eq_loadGroups loads
        cases List.mem_singleton.1 tells
        refine ⟨congrArg some plan, State.lights_update (fun lights other => ?_) _ _⟩
        rw [other] at loads
        cases loads
      · cases tells

/-- Whoever is told meets known lights, and the listing was planned when no other listing of the
lights was asked for. -/
theorem planned_of_told {settings : SyncSettings} {wording : Wording} {before : List Event}
    {answer : Answer} {canRun : Bool} {heard : List Change} {t : State}
    (tells : t ∈ ((new settings wording).run before).toldIn (.answer d answer canRun heard)) :
    t.lights.isSome = true ∧
      ∃ planned, (new settings wording).PlannedIn before d .loadGroups planned ∧
        planned.lights.isSome = true ∧ planned.reloadLights = false := by
  obtain ⟨waiting, met⟩ := loadGroups_of_told tells
  have idle : (new settings wording).underway d = none := by cases d <;> rfl
  obtain ⟨planned, origin⟩ := plannedIn_of_underway idle waiting
  obtain ⟨first, later, rfl, rfl, -, plans, -⟩ := id origin
  have order := State.lights_of_plan_loadGroups plans
  refine ⟨?_, _, origin, order⟩
  -- From where the listing was planned, the lights stayed known.
  rw [met, run_append]
  exact isSome_lights_run order.1 (.go d :: later)

end Reconciler.Scene

/-! ## Loading the groups, from one end to the other -/

namespace Household

open Reconciler (State Scene)

/-- What loading the groups does. What is known of them afterwards is decided by the listing and the
household, whatever was known before. If both managed groups are found, whoever waits for them is
told once, and meets the groups that were loaded; what the household pushes then is wanted of them,
and not confirmed. Else nobody is told, and the groups that were found hold what a listing leaves.
In every run, there is one telling for each listing that is taken in with both managed groups, the
lights are known then, and the listing was planned when no other listing of them was asked for. -/
theorem groups_loaded_anew {σ₁ σ₂ : Type} [Host σ₁] [Host σ₂] {body : Json} {listed : List Group}
    (decoded : Group.ofListing body = .ok listed) :
    let answer : Answer := .ok ⟨200, body⟩
    (∀ (h₁ : Household σ₁) (h₂ : Household σ₂), h₁.SameGrounds h₂ →
      let after₁ := (h₁.takeIn .loadGroups answer).1.sync.state
      let after₂ := (h₂.takeIn .loadGroups answer).1.sync.state
      after₁.groups = after₂.groups ∧ ∀ kind, after₁.place kind = after₂.place kind) ∧
    (∀ r : Reconciler,
      (r.settings.finds listed = true → ∃ t, r.told .loadGroups answer = [t] ∧
        t.isReady = true ∧ t.Lists r.settings listed) ∧
      (r.settings.finds listed = false → r.told .loadGroups answer = [])) ∧
    (∀ h : Household σ₁, h.sync.settings.finds listed = true → h.settings.repushOnReady = true →
      h.sync.settings.brightnessGroup ≠ h.sync.settings.temperatureGroup →
      let after := (h.takeIn .loadGroups answer).1.sync.state
      (∃ g, after.group? .brightness = some g ∧
        g.lights = ⟨some (h.followers h.followsBrightness), true, false⟩ ∧
        g.brightness.value = some (Brightness.clamped h.desired.brightness.toNat).value ∧
        g.brightness.dirty = true) ∧
      ∃ g, after.group? .temperature = some g ∧
        g.lights = ⟨some (h.followers h.followsTemperature), true, false⟩ ∧
        g.colorTemp.value = some (ColorTemp.clamped h.desired.temperature.toNat).mirek ∧
        g.colorTemp.dirty = true) ∧
    (∀ h : Household σ₁,
      h.sync.settings.finds listed = false ∨ h.settings.repushOnReady = false →
      ∀ kind g, (h.takeIn .loadGroups answer).1.sync.state.group? kind = some g →
        g.lights = ⟨some ∅, true, false⟩ ∧ g.brightness = ⟨some 0, true, false⟩ ∧
          g.colorTemp = ⟨some 0, true, false⟩) ∧
    ∀ settings wording events,
      let start := Scene.new settings wording
      (start.told events).length = (start.found events).length ∧
      List.Forall₂ (Scene.Meets settings) (start.told events) (start.found events) ∧
      ∀ d answer canRun heard, ∀ t ∈ (start.run events).toldIn (.answer d answer canRun heard),
        t.lights.isSome = true ∧ ∃ planned, start.PlannedIn events d .loadGroups planned ∧
          planned.lights.isSome = true ∧ planned.reloadLights = false := by
  intro answer
  have read : Reconciler.Plan.loadGroups.read answer = .ok (.groups listed) :=
    Reconciler.Plan.read_eq_ok_iff.2 (.groups rfl decoded)
  have told (r : Reconciler) : r.told .loadGroups answer =
      if r.settings.finds listed then [r.state.update r.settings (.groups listed)] else [] := by
    rw [Reconciler.told_of_ok read, State.isReady_update_groups]
    rfl
  refine ⟨fun h₁ h₂ same => ?_, fun r => ⟨fun found => ?_, fun missing => ?_⟩,
    fun h found repush differ => pushed_takeIn read found repush differ,
    fun h quiet kind g known => ?_, fun settings wording events => ?_⟩
  · have grouped : (h₁.takeIn .loadGroups answer).1.sync.state.grouped =
        (h₂.takeIn .loadGroups answer).1.sync.state.grouped := by
      rw [grouped_takeIn read, grouped_takeIn read, same.sync, same.heard]
    refine ⟨(congrArg State.groups grouped :), fun kind => ?_⟩
    cases kind with
    | brightness => exact (congrArg State.brightnessGroup grouped :)
    | temperature => exact (congrArg State.temperatureGroup grouped :)
  · exact ⟨_, by rw [told, if_pos found], by rw [State.isReady_update_groups, found],
      r.state.lists_update_groups r.settings listed⟩
  · rw [told, missing, if_neg Bool.false_ne_true]
  · rw [group?_takeIn_of_quiet read quiet] at known
    obtain ⟨g₀, -, rfl⟩ := Option.map_eq_some_iff.1 known
    exact ⟨rfl, rfl, rfl⟩
  · have meets := (Scene.new settings wording).told_meets_found_run events
    exact ⟨meets.length_eq, meets, fun d answer canRun heard t => Scene.planned_of_told⟩

/-- A lamp that is as bright as wanted, and not as warm. -/
def brightLamp : Household Simulation.ScriptedHost :=
  let host := Simulation.ScriptedHost.ofEntities
    [(Entity.light "light.lamp" "five" "Lamp").on (some 250) (some 400)]
  let h := Household.new .default host (.new .manual .brief)
  let state := { State.empty with lights := some [⟨"5", "Lamp", "five"⟩] }
  { h with sync := { h.sync with state } }

/-- The same, where the group with another number is managed, has values that are confirmed, and
everything is to be turned off. -/
def staleLamp : Household Simulation.ScriptedHost :=
  { brightLamp with sync := { brightLamp.sync with state := { brightLamp.sync.state with
    groups := some [⟨"9", "Auto Brightness", .confirmed (.ofList ["7"]), .confirmed 77, .empty⟩]
    brightnessGroup := some 0
    reloadGroups := true
    allOff := some none } } }

/-- A listing with both managed groups. -/
def managedGroups : Json := .obj [
  ("1", .obj [("name", .str "Auto Brightness"), ("lights", .strings ["3"])]),
  ("2", .obj [("name", .str "Auto Temperature")])]

/-- Lights are listed, and a listing of the groups is asked for. -/
def lampListed : List Scene.Event := [
  .go (.hand 0), .answer (.hand 0) (.ok ⟨200, .obj []⟩) true [],
  .go (.hand 0)]

theorem groups_loaded_anew_of_stale_lamp :
    let answer : Answer := .ok ⟨200, managedGroups⟩
    let loaded (h : Household Simulation.ScriptedHost) :=
      (h.takeIn .loadGroups answer).1.sync.state
    let unknown := { staleLamp with sync := { staleLamp.sync with
      settings := { SyncSettings.manual with temperatureGroup := "Warm" } } }
    (loaded staleLamp).groups = (loaded brightLamp).groups ∧
    (∃ t, staleLamp.sync.told .loadGroups answer = [t]) ∧
    unknown.sync.told .loadGroups answer = [] ∧
    (∃ g, (loaded staleLamp).group? .brightness = some g ∧
      g.lights = ⟨some (.ofList ["5"]), true, false⟩ ∧ g.brightness.value = some 254) ∧
    (∀ g, (loaded unknown).group? .brightness = some g → g.lights = ⟨some ∅, true, false⟩) ∧
    ∃ t ∈ ((Scene.new .manual .brief).run lampListed).toldIn (.answer (.hand 0) answer true []),
      t.lights.isSome = true := by
  intro answer loaded unknown
  have decoded : Group.ofListing managedGroups = .ok [
      .listed "1" "Auto Brightness" (.ofList ["3"]), .listed "2" "Auto Temperature" ∅] :=
    toOption_eq_some_iff.1 (by decide +kernel)
  obtain ⟨same, told, pushed, quiet, run⟩ :=
    @groups_loaded_anew Simulation.ScriptedHost Simulation.ScriptedHost _ _ _ _ decoded
  obtain ⟨once, -⟩ := told staleLamp.sync
  obtain ⟨-, never⟩ := told unknown.sync
  obtain ⟨t, tells, -⟩ := once (by decide +kernel)
  obtain ⟨⟨g, known, lights, value, -⟩, -⟩ :=
    pushed staleLamp (by decide +kernel) rfl (by decide +kernel)
  have follows : staleLamp.followers staleLamp.followsBrightness = .ofList ["5"] := by
    decide +kernel
  refine ⟨(same staleLamp brightLamp ⟨rfl, rfl, rfl, rfl, rfl⟩).1, ⟨t, tells⟩,
    never (by decide +kernel), ⟨g, known, follows ▸ lights, ?_⟩, ?_, ?_⟩
  · exact value.trans (by decide +kernel)
  · exact fun g known => (quiet unknown (.inl (by decide +kernel)) .brightness g known).1
  · have some : ((Scene.new .manual .brief).run lampListed).toldIn
        (.answer (.hand 0) answer true []) ≠ [] := by decide +kernel
    obtain ⟨t, tells⟩ := List.exists_mem_of_ne_nil _ some
    exact ⟨t, tells, ((run .manual .brief lampListed).2.2 (.hand 0) answer true [] t tells).1⟩

end Household
end LightSync
