import LightSync.Proofs.Exclusion
import LightSync.Proofs.FailedStep
import LightSync.Proofs.Requests
import LightSync.Proofs.SetAlgebra

/-!
# Turning all lights off

A pending all-off goes before everything else. Whatever the bridge replies to it, it is done: no
light is wanted in a managed group any more, and nothing else has changed. From then on nothing is
written to a managed group until a change adds a light, or the groups are listed anew. Only if the
bridge was not reached does the all-off stay pending.

## Main definitions

- `State.darkened`: what is left of a state after all lights were turned off
- `State.Gains`: a change adds a light
- `Scene.Uneventful`: events that add no light and list no groups
-/

namespace LightSync.Reconciler

open Bridge

namespace State

variable {s t : State} {settings : SyncSettings} {kind : GroupKind} {plan : Plan}

/-- The state after all lights were turned off: no light is wanted in a managed group, and nothing
is to be sent about that. -/
def darkened (s : State) : State := { s with
  allOff := none
  groups := s.groups.map (·.mapIdx fun i g =>
    if s.place .brightness = some i ∨ s.place .temperature = some i then
      { g with lights := .confirmed ∅ }
    else g) }

theorem update_allOff_eq_darkened : s.update settings .allOff = s.darkened := by
  have both : s.update settings .allOff =
      { (s.modifyGroup .brightness Group.emptied).modifyGroup .temperature Group.emptied with
        allOff := none } := rfl
  rw [both, modifyGroup_eq_mapIdx, place_modifyGroup, modifyGroup_eq_mapIdx s]
  simp only [darkened, Option.map_map, Function.comp_def, List.mapIdx_mapIdx]
  congr 2
  funext groups
  congr 1
  funext i g
  -- A group that is managed for both values is emptied twice.
  by_cases bright : s.place .brightness = some i
  · by_cases warm : s.place .temperature = some i
    · simp only [if_pos bright, if_pos warm, if_pos (Or.inl bright)]
      rfl
    · simp only [if_pos bright, if_neg warm, if_pos (Or.inl bright)]
      rfl
  · by_cases warm : s.place .temperature = some i
    · simp only [if_neg bright, if_pos warm, if_pos (Or.inr warm)]
      rfl
    · simp only [if_neg bright, if_neg warm, if_neg (not_or.2 ⟨bright, warm⟩)]

theorem plan_of_allOff {fade : Option Fade} (pending : s.allOff = some fade) :
    s.plan settings = some (.allOff (allOffCommand settings fade)) := by
  simp only [plan, pending]

/-! ## States in which no light is wanted -/

/-- No light is wanted in a managed group. -/
def Dark (s : State) : Prop := ∀ kind light, light ∉ s.wanted kind

theorem Dark.congr (h : s.Dark) (same : s.unclaimed = t.unclaimed) : t.Dark :=
  fun kind light mem => h kind light (wanted_congr same kind ▸ mem)

theorem dark_darkened (s : State) : s.darkened.Dark := by
  intro kind light mem
  have emptied : s.update .default .allOff = s.darkened := update_allOff_eq_darkened
  rw [← emptied] at mem
  obtain ⟨g', after, mem⟩ := exists_of_mem_wanted mem
  rw [group?_update_allOff] at after
  obtain ⟨g, -, rfl⟩ := Option.map_eq_some_iff.1 after
  exact NameSet.not_mem_empty mem

theorem Dark.isEmpty (h : s.Dark) {g : Group} (known : s.group? kind = some g) :
    g.lights.isEmpty = true := by
  refine NameSet.isEmpty_iff.2 (NameSet.ext fun light => ?_)
  refine ⟨fun mem => absurd ?_ (h kind light), fun mem => absurd mem NameSet.not_mem_empty⟩
  rwa [wanted_of_group known]

theorem Dark.planMembership (h : s.Dark) (kind : GroupKind) : s.planMembership kind = none := by
  refine Option.eq_none_iff_forall_ne_some.2 fun plan planned => ?_
  obtain ⟨g, known, -, wanted, -⟩ := planMembership_eq_some_iff.1 planned
  exact nomatch wanted.symm.trans (h.isEmpty known)

theorem Dark.planValues (h : s.Dark) : s.planValues settings = none := by
  refine Option.eq_none_iff_forall_ne_some.2 fun plan planned => ?_
  obtain ⟨b, t, path, command, hb, ht, -, -, bri, ct, carries⟩ := planValues_eq_some planned
  have noBri : command.bri = none := by rw [bri, pendingValue, h.isEmpty hb, Bool.not_true,
    Bool.and_false, if_neg Bool.false_ne_true]
  have noCt : command.ct = none := by
    rcases ct with ct | ⟨none, -⟩
    · rw [ct, pendingValue, h.isEmpty ht, Bool.not_true, Bool.and_false,
        if_neg Bool.false_ne_true]
    · exact none
  simp [noBri, noCt] at carries

/-- Where no light is wanted nothing is written to a managed group. -/
theorem Dark.not_writes (h : s.Dark) (planned : s.plan settings = some plan) :
    ¬ Scene.Writes plan := by
  have nothing : s.course settings = none := by
    rw [course, h.planMembership, h.planMembership, h.planValues]
    rfl
  rcases s.plan_cases settings with
    ⟨fade, -, same⟩ | ⟨-, -, same⟩ | ⟨-, -, -, -, same⟩ | ⟨-, same⟩
  · cases planned.symm.trans same
    simp [Scene.Writes, Plan.step]
  · cases planned.symm.trans same
    simp [Scene.Writes, Plan.step]
  · cases planned.symm.trans same
    simp [Scene.Writes, Plan.step]
  · rw [planned, nothing] at same
    split at same <;> cases same

/-- A change by which a light comes to be wanted in a managed group. -/
def Gains (s : State) (c : Change) : Prop :=
  ∃ kind light, light ∉ s.wanted kind ∧ light ∈ (s.change c).1.wanted kind

/-- Only a membership that is replaced by lights, or to which lights are added, gains one. -/
theorem Gains.adds {c : Change} (h : s.Gains c) : ∃ light, c.Adds light := by
  obtain ⟨kind, light, before, after⟩ := h
  rcases mem_wanted_change after with mem | adds
  · exact absurd mem before
  · exact ⟨light, adds⟩

theorem Dark.change {c : Change} (h : s.Dark) (quiet : ¬ s.Gains c) : (s.change c).1.Dark :=
  fun kind light mem => quiet ⟨kind, light, h kind light, mem⟩

theorem Dark.update (h : s.Dark) (u : Update) : (s.update settings u).Dark :=
  fun kind light mem => h kind light (mem_wanted_update mem)

end State

namespace Scene

variable {s : Scene} {d : Driver} {command : Command}

/-- No change adds a light, and no listing of the groups is taken in. -/
def Uneventful (s : Scene) (e : Event) : Prop :=
  (∀ canRun c, e = .change canRun c → ¬ s.state.Gains c) ∧
    ∀ groups, s.readUpdate e ≠ some (.groups groups)

theorem uneventful_change {c : Change} (adds : ∀ light, ¬ c.Adds light) (canRun : Bool) :
    s.Uneventful (.change canRun c) := by
  refine ⟨fun canRun' c' same gains => ?_, nofun⟩
  cases same
  obtain ⟨light, added⟩ := gains.adds
  exact adds light added

theorem dark_next {e : Event} (dark : s.state.Dark) (quiet : s.Uneventful e) :
    (s.next e).state.Dark := by
  obtain ⟨adds, lists⟩ := quiet
  cases e with
  | change canRun c =>
    exact (dark.change (adds canRun c rfl)).congr (s.unclaimed_next (.change canRun c)).symm
  | go d => exact dark.congr (s.unclaimed_next (.go d)).symm
  | answer d answer canRun heard =>
    -- Listeners are told of nothing but loads, so the answer is all that happens.
    have nobody : s.followUps (.answer d answer canRun heard) = [] := by
      refine followUps_of_not_loads fun u read => ?_
      cases u with
      | groups groups => exact absurd read (lists groups)
      | allOff | lights | membership | values => rfl
    have updates : s.moves (.answer d answer canRun heard) =
        (s.readUpdate (.answer d answer canRun heard)).toList.map .update := by
      simp only [moves, nobody, List.map_nil, List.append_nil, List.nil_append]
    refine State.Dark.congr ?_ (s.unclaimed_next_moves _).symm
    rw [updates]
    cases s.readUpdate (.answer d answer canRun heard) with
    | none => exact dark
    | some u => exact dark.update u

theorem dark_run {events : List Event} (dark : s.state.Dark)
    (quiet : Run.Admitted next Uneventful s events) : (s.run events).state.Dark := by
  have kept (t : Scene) (e : Event) (dark : t.state.Dark) (quiet : t.Uneventful e) :
      (t.next e).state.Dark := dark_next dark quiet
  exact Run.invariant kept quiet dark

/-- Beginning a step leaves the state alone. -/
theorem state_of_begun {plan : Plan} (idle : s.underway d = none)
    (begun : (s.next (.go d)).underway d = some plan) : (s.next (.go d)).state = s.state := by
  have going := (go_of_begun idle begun).2
  cases d with
  | hand n => exact state_of_silent going
  | loop id => exact (state_of_silent going :)

/-- An all-off that was answered is done, whatever the answer was. -/
theorem unclaimed_of_darkened (waiting : s.underway d = some (.allOff command))
    (response : Response) (canRun : Bool) (heard : List Change) :
    let after := s.next (.answer d (.ok response) canRun heard)
    after.state.unclaimed = s.state.darkened.unclaimed ∧
      ∀ n, d = .hand n → after.state = s.state.darkened := by
  intro after
  have read : (Plan.allOff command).read (.ok response) = .ok .allOff := rfl
  refine ⟨?_, ?_⟩
  · rw [unclaimed_next, settled, waiting]
    simp only [State.take, read, Update.loads, Bool.false_and, Bool.false_eq_true, if_false,
      State.update_allOff_eq_darkened]
  · rintro n rfl
    have taken := (conclude_of_ok read s.sync canRun heard).1
    simp only [Update.loads, Bool.false_and, Bool.false_eq_true, if_false,
      State.update_allOff_eq_darkened] at taken
    exact (congrArg state (next_answer_hand s waiting _ canRun heard)).trans (state_of_silent taken)

/-- An all-off without an answer stays as it was, and is planned again. -/
theorem pending_of_unanswered (idle : s.underway d = none)
    (begun : (s.next (.go d)).underway d = some (.allOff command)) (failure : Failure)
    (canRun : Bool) (heard : List Change) :
    let after := (s.next (.go d)).next (.answer d (.error failure) canRun heard)
    after.state.unclaimed = s.state.unclaimed ∧ (∀ n, d = .hand n → after.state = s.state) ∧
      after.state.plan after.sync.settings = some (.allOff command) := by
  intro after
  have planned := (go_of_begun idle begun).1
  have refused : (Plan.allOff command).Refuses (.error failure) :=
    Plan.read_eq_error_iff.1 ⟨failure, rfl⟩
  have left : after.sync.silent = (d.leave s.sync).silent :=
    silent_of_refused idle begun refused [] canRun heard
  have same : after.state = (d.leave s.sync).state := state_of_silent left
  rw [same, settings_of_silent left]
  cases d with
  | hand n => exact ⟨rfl, fun _ _ => rfl, planned⟩
  | loop id => exact ⟨rfl, nofun, planned⟩

/-- An all-off ends all tracking. It is planned before anything else. Whatever the bridge replies to
it, no request is pending any more, the managed groups that are known have no lights, which needs no
confirmation, and all else is as it was; and from then on, whatever happens, nothing is written to a
managed group before a change adds a light or the groups are listed anew. If there is no reply,
everything stays as it was, and the same all-off is planned again. -/
theorem all_off_ends_tracking (s : Scene) (d : Driver) (command : Command)
    (idle : s.underway d = none) (begun : (s.next (.go d)).underway d = some (.allOff command)) :
    (∀ (t : State) settings fade, t.allOff = some fade →
      t.plan settings = some (.allOff (State.allOffCommand settings fade))) ∧
    (∀ response canRun heard,
      let after := (s.next (.go d)).next (.answer d (.ok response) canRun heard)
      after.state.unclaimed = s.state.darkened.unclaimed ∧
      (∀ n, d = .hand n → after.state = s.state.darkened) ∧
      ∀ events, Run.Admitted next Uneventful after events → ∀ plan,
        (after.run events).state.plan s.sync.settings = some plan → ¬ Writes plan) ∧
    ∀ failure canRun heard,
      let after := (s.next (.go d)).next (.answer d (.error failure) canRun heard)
      after.state.unclaimed = s.state.unclaimed ∧ (∀ n, d = .hand n → after.state = s.state) ∧
        after.state.plan after.sync.settings = some (.allOff command) := by
  refine ⟨fun t settings fade => State.plan_of_allOff, fun response canRun heard => ?_,
    fun failure canRun heard => pending_of_unanswered idle begun failure canRun heard⟩
  intro after
  obtain ⟨done, by_hand⟩ := unclaimed_of_darkened begun response canRun heard
  rw [state_of_begun idle begun] at done by_hand
  refine ⟨done, by_hand, fun events quiet plan planned => ?_⟩
  have dark : after.state.Dark := State.Dark.congr s.state.dark_darkened done.symm
  exact (dark_run dark quiet).not_writes planned

/-- A light was added to both groups, its brightness is to be sent, and an all-off is requested. -/
def allOffRequested : Scene := (new .default .brief).run (managedGroupsListed ++ [
  .change false (.addLights .brightness ["5"]), .change false (.addLights .temperature ["5"]),
  .change false (.setBrightness 200), .change false (.requestAllOff none)])

/-- The bridge refuses the all-off, and so it does with a reload later on; meanwhile a value is
changed, and a light is removed. -/
theorem all_off_ends_tracking_of_refusal :
    let s := allOffRequested
    let command := State.allOffCommand .default none
    let after := (s.next (.go (.hand 0))).next (.answer (.hand 0) (.ok ⟨404, .null⟩) true [])
    let events : List Event := [.change true (.setBrightness 90),
      .change true (.removeLights .temperature ["5"]), .change true .requestReload, .go (.hand 0),
      .answer (.hand 0) (.ok ⟨500, .null⟩) true [.addLights .brightness ["5"]]]
    s.underway (.hand 0) = none ∧
      (s.next (.go (.hand 0))).underway (.hand 0) = some (.allOff command) ∧
      after.state = s.state.darkened ∧ Run.Admitted next Uneventful after events ∧
      ∀ plan, (after.run events).state.plan s.sync.settings = some plan → ¬ Writes plan := by
  intro s command after events
  have idle : s.underway (.hand 0) = none := by decide +kernel
  have begun : (s.next (.go (.hand 0))).underway (.hand 0) = some (.allOff command) := by
    decide +kernel
  obtain ⟨-, answered, -⟩ := all_off_ends_tracking s (.hand 0) command idle begun
  obtain ⟨-, dark, silent⟩ := answered ⟨404, .null⟩ true []
  have refused : ((((after.next (.change true (.setBrightness 90))).next
      (.change true (.removeLights .temperature ["5"]))).next
      (.change true .requestReload)).next (.go (.hand 0))).readUpdate
      (.answer (.hand 0) (.ok ⟨500, .null⟩) true [.addLights .brightness ["5"]]) = none := by
    decide +kernel
  have quiet : Run.Admitted next Uneventful after events :=
    ⟨uneventful_change (fun _ => id) true, uneventful_change (fun _ => id) true,
      uneventful_change (fun _ => id) true, ⟨nofun, nofun⟩,
      ⟨nofun, fun groups read => nomatch refused.symm.trans read⟩, trivial⟩
  exact ⟨idle, begun, dark 0 rfl, quiet, silent events quiet⟩

end Scene
end LightSync.Reconciler
