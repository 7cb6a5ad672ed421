import LightSync.Proofs.Planning
import LightSync.Proofs.Reading
import LightSync.Proofs.Scene

/-!
# Clean means confirmed

A cell of a managed group becomes clean only by an answer that confirms the value that the cell
holds when the answer arrives. The request may have carried another value: what was wanted while it
was under way is kept, and stays dirty.

## Main definitions

- `Scene.ConfirmsLights`, `Scene.ConfirmsValue`: an answer confirms what a cell holds
- `Scene.CleansConfirmed`: an event cleans no other cells
- `Scene.InFlight`: a request under way is the only one, and carries dirty cells
-/

namespace LightSync.Reconciler

open Bridge

namespace State

variable {s : State} {settings : SyncSettings} {kind : GroupKind} {g g' : Group}

/-! ## Updates -/

/-- An update cleans the lights of a managed group only if every light was turned off, or if it
confirms them for the path of the group. -/
theorem lights_cleaned_by_update {u : Update} (before : s.group? kind = some g)
    (after : (s.update settings u).group? kind = some g') (dirty : g.lights.dirty = true)
    (clean : g'.lights.dirty = false) :
    u = .allOff ∨ ∃ other lights, u = .membership other g.path (some lights) ∧
      g.lights.value = some lights := by
  rcases group_update_cases before after with
    ⟨rfl, -⟩ | rfl | ⟨_, listed, -, rfl⟩ | ⟨other, confirmed, rfl, rfl⟩ |
    ⟨bri, ct, _, _, -, rfl, -⟩
  · exact .inl rfl
  · exact nomatch dirty.symm.trans clean
  · cases clean
  · obtain ⟨lights, rfl, held⟩ := Cell.value_of_confirm_clean dirty clean
    exact .inr ⟨other, lights, rfl, held⟩
  · exact nomatch dirty.symm.trans clean

theorem brightness_cleaned_by_update {u : Update} (before : s.group? kind = some g)
    (after : (s.update settings u).group? kind = some g') (dirty : g.brightness.dirty = true)
    (clean : g'.brightness.dirty = false) :
    ∃ bri ct, u = .values (some bri) ct ∧ g.brightness.value = some bri := by
  rcases group_update_cases before after with
    ⟨-, rfl⟩ | rfl | ⟨_, listed, -, rfl⟩ | ⟨_, _, -, rfl⟩ |
    ⟨bri, ct, _, _, rfl, rfl, rfl | rfl, -⟩
  · exact nomatch dirty.symm.trans clean
  · exact nomatch dirty.symm.trans clean
  · cases clean
  · exact nomatch dirty.symm.trans clean
  · exact nomatch dirty.symm.trans clean
  · obtain ⟨value, rfl, held⟩ := Cell.value_of_confirm_clean dirty clean
    exact ⟨value, ct, rfl, held⟩

theorem colorTemp_cleaned_by_update {u : Update} (before : s.group? kind = some g)
    (after : (s.update settings u).group? kind = some g') (dirty : g.colorTemp.dirty = true)
    (clean : g'.colorTemp.dirty = false) :
    ∃ bri ct, u = .values bri (some ct) ∧ g.colorTemp.value = some ct := by
  rcases group_update_cases before after with
    ⟨-, rfl⟩ | rfl | ⟨_, listed, -, rfl⟩ | ⟨_, _, -, rfl⟩ |
    ⟨bri, ct, _, _, rfl, rfl, -, rfl | rfl⟩
  · exact nomatch dirty.symm.trans clean
  · exact nomatch dirty.symm.trans clean
  · cases clean
  · exact nomatch dirty.symm.trans clean
  · exact nomatch dirty.symm.trans clean
  · obtain ⟨value, rfl, held⟩ := Cell.value_of_confirm_clean dirty clean
    exact ⟨bri, value, rfl, held⟩

end State

namespace Scene

/-! ## Events -/

/-- An event makes changes, or an update that it reads from an answer and changes after that. -/
theorem next_cases (s : Scene) (e : Event) :
    s.state.Rewanted (s.next e).state ∨
    ∃ d plan answer canRun heard u, e = .answer d answer canRun heard ∧
      s.underway d = some plan ∧ plan.Reads answer u ∧
      (s.state.update s.sync.settings u).Rewanted (s.next e).state := by
  have settled := (s.unclaimed_next e).symm
  cases e with
  | change canRun c => exact .inl ((s.state.rewanted_change c).congr settled)
  | go d => exact .inl ((State.Rewanted.refl s.state).congr settled)
  | answer d answer canRun heard =>
    cases waiting : s.underway d with
    | none =>
      simp only [Scene.settled, waiting] at settled
      exact .inl ((State.Rewanted.refl s.state).congr settled)
    | some plan =>
      simp only [Scene.settled, waiting, State.take] at settled
      cases outcome : plan.read answer with
      | error failure =>
        simp only [outcome] at settled
        exact .inl ((State.Rewanted.refl s.state).congr settled)
      | ok u =>
        refine .inr ⟨d, plan, answer, canRun, heard, u, rfl, waiting,
          Plan.read_eq_ok_iff.1 outcome, ?_⟩
        simp only [outcome] at settled
        split at settled
        · exact (State.rewanted_changes _ heard).congr settled
        · exact (State.Rewanted.refl _).congr settled

/-! ## What an answer confirms -/

/-- The event is the response to a request that is under way. -/
def Answers (s : Scene) (e : Event) (plan : Plan) (response : Response) : Prop :=
  ∃ d canRun heard, e = .answer d (.ok response) canRun heard ∧ s.underway d = some plan

/-- The response confirms the lights that a group holds: every light was told to turn off, or a
membership was sent to the path of the group, and the confirmed lights are those that it holds. -/
def ConfirmsLights (plan : Plan) (response : Response) (g : Group) : Prop :=
  (∃ command, plan = .allOff command) ∨
  ∃ kind sent lights names, plan = .membership kind g.path sent ∧ response.status = 200 ∧
    g.lights.value = some lights ∧
    response.Confirms (g.path ++ "/lights") (.strings names) ∧ ∀ l, l ∈ names ↔ l ∈ lights

/-- The response confirms the value that a cell holds: values were sent, and the value of the
attribute at their path is this one. -/
def ConfirmsValue (plan : Plan) (response : Response) (suffix : String) (value : Option Nat) :
    Prop :=
  ∃ path command n, plan = .values path command ∧ response.status = 200 ∧ value = some n ∧
    response.Confirms (path ++ suffix) (.int n)

/-- A managed group has no cell that the event cleans without confirming what it holds. -/
structure CleansConfirmed (s : Scene) (e : Event) (g g' : Group) : Prop where
  lights : g.lights.dirty = true → g'.lights.dirty = false →
    ∃ plan response, s.Answers e plan response ∧ ConfirmsLights plan response g
  brightness : g.brightness.dirty = true → g'.brightness.dirty = false →
    ∃ plan response, s.Answers e plan response ∧
      ConfirmsValue plan response "/bri" (g.brightness.value.map (·.toNat))
  colorTemp : g.colorTemp.dirty = true → g'.colorTemp.dirty = false →
    ∃ plan response, s.Answers e plan response ∧
      ConfirmsValue plan response "/ct" (g.colorTemp.value.map (·.toNat))

theorem confirmsLights_of_reads {plan : Plan} {response : Response} {u : Update} {g : Group}
    (reads : plan.Reads (.ok response) u)
    (h : u = .allOff ∨ ∃ other lights, u = .membership other g.path (some lights) ∧
      g.lights.value = some lights) : ConfirmsLights plan response g := by
  rcases h with rfl | ⟨other, lights, rfl, held⟩
  · cases reads with
    | allOff command => exact .inl ⟨command, rfl⟩
  · generalize confirmed : some lights = c at reads
    cases reads with
    | membership kind path sent ok =>
      obtain ⟨names, confirms, rfl⟩ := confirmedMembership_eq_some_iff.1 confirmed.symm
      exact .inr ⟨other, sent, _, names, rfl, ok, held, confirms, fun l =>
        NameSet.mem_ofList.symm⟩

/-- An event cleans only cells of managed groups whose content it confirms. -/
theorem cleansConfirmed {s : Scene} {e : Event} {kind : GroupKind} {g g' : Group}
    (before : s.state.group? kind = some g) (after : (s.next e).state.group? kind = some g') :
    s.CleansConfirmed e g g' := by
  rcases s.next_cases e with
    rewanted | ⟨d, plan, answer, canRun, heard, u, rfl, waiting, reads, rewanted⟩
  · obtain ⟨g₀, found, anew⟩ := rewanted.group_of_after after
    cases before.symm.trans found
    constructor
    · intro dirty clean
      exact nomatch dirty.symm.trans (anew.lights.clean clean)
    · intro dirty clean
      exact nomatch dirty.symm.trans (anew.brightness.clean clean)
    · intro dirty clean
      exact nomatch dirty.symm.trans (anew.colorTemp.clean clean)
  -- Changes heard of after the update clean nothing, so the update did it.
  · obtain ⟨g₁, updated, anew⟩ := rewanted.group_of_after after
    obtain ⟨response, rfl⟩ := reads.ok
    have answers : s.Answers (.answer d (.ok response) canRun heard) plan response :=
      ⟨d, canRun, heard, rfl, waiting⟩
    constructor
    · intro dirty clean
      have cleaned := State.lights_cleaned_by_update before updated dirty (anew.lights.clean clean)
      exact ⟨plan, response, answers, confirmsLights_of_reads reads cleaned⟩
    · intro dirty clean
      obtain ⟨bri, ct, rfl, held⟩ :=
        State.brightness_cleaned_by_update before updated dirty (anew.brightness.clean clean)
      generalize confirmed : some bri = c at reads
      cases reads with
      | values path command ok =>
        refine ⟨_, response, answers, path, command, bri.toNat, rfl, ok, by rw [held]; rfl, ?_⟩
        exact confirmedBrightness_eq_some_iff.1 confirmed.symm
    · intro dirty clean
      obtain ⟨bri, ct, rfl, held⟩ :=
        State.colorTemp_cleaned_by_update before updated dirty (anew.colorTemp.clean clean)
      generalize confirmed : some ct = c at reads
      cases reads with
      | values path command ok =>
        refine ⟨_, response, answers, path, command, ct.toNat, rfl, ok, by rw [held]; rfl, ?_⟩
        exact confirmedColorTemp_eq_some_iff.1 confirmed.symm

/-! ## Requests under way -/

/-- A request under way is the only one, and the cells whose values it carries are dirty. -/
def InFlight (s : Scene) : Prop :=
  ∀ d plan, s.underway d = some plan →
    s.state.Carries plan ∧ ∀ other, s.underway other ≠ none → other = d

theorem inFlight_new (settings : SyncSettings) (wording : Wording) :
    (new settings wording).InFlight := by
  intro d plan waiting
  cases d <;> cases waiting

/-- Steps that are made one at a time keep carrying dirty cells. -/
theorem inFlight_next {s : Scene} {e : Event} (h : s.InFlight) (ok : s.OneAtATime e) :
    (s.next e).InFlight := by
  have settled := (s.unclaimed_next e).symm
  intro d plan waiting
  cases e with
  | change canRun c =>
    rw [underway_change] at waiting
    obtain ⟨carries, only⟩ := h d plan waiting
    refine ⟨(carries.rewanted (s.state.rewanted_change c)).congr settled, ?_⟩
    intro other busy
    rw [underway_change] at busy
    exact only other busy
  | go d₀ =>
    -- No request of another driver was under way if one is under way now.
    have alone (one other : Driver) (first : (s.next (.go d₀)).underway one ≠ none)
        (second : (s.next (.go d₀)).underway other ≠ none) (here : one = d₀) : other = d₀ := by
      by_cases there : other = d₀
      · exact there
      · rw [underway_go_of_ne s there] at second
        exact ok d₀ rfl (here ▸ first) other second
    have busy : (s.next (.go d₀)).underway d ≠ none := by rw [waiting]; exact nofun
    by_cases here : d = d₀
    · refine ⟨?_, fun other second => (alone d other busy second here).trans here.symm⟩
      subst here
      rcases s.underway_go_self d with same | ⟨-, planned⟩
      · exact (h d plan (same ▸ waiting)).1.congr settled
      · exact (State.carries_of_plan (planned ▸ waiting)).congr settled
    · have before := waiting
      rw [underway_go_of_ne s here] at before
      obtain ⟨carries, only⟩ := h d plan before
      refine ⟨carries.congr settled, ?_⟩
      intro other second
      by_cases there : other = d₀
      · exact absurd (alone other d second busy there) here
      · rw [underway_go_of_ne s there] at second
        exact only other second
  | answer d₀ answer canRun heard =>
    rw [underway_answer] at waiting
    split at waiting
    · cases waiting
    · rename_i differ
      obtain ⟨carries, only⟩ := h d plan waiting
      have nothing : s.underway d₀ = none :=
        Classical.byContradiction fun busy => differ (only d₀ busy).symm
      rw [next_answer_of_none s nothing]
      exact ⟨carries, only⟩

theorem inFlight_run {settings : SyncSettings} {wording : Wording} {events : List Event}
    (single : Run.Admitted next OneAtATime (new settings wording) events) :
    ((new settings wording).run events).InFlight :=
  Run.invariant (fun _ _ => inFlight_next) single (inFlight_new settings wording)

/-! ## Values that change while a request is under way -/

/-- A step that writes to a managed group. -/
def Writes (plan : Plan) : Prop :=
  plan.step = .updateGroupMembership ∨ plan.step = .updateGroupValues

/-- Every group keeps its values, and the managed ones stay where they are. -/
def KeepsValues (s t : State) : Prop :=
  t.groups.map (·.map Group.values) = s.groups.map (·.map Group.values) ∧
    ∀ kind, t.place kind = s.place kind

/-- A dirty cell keeps what it holds, and it stays dirty unless that is confirmed. -/
def KeptUnless {α : Type} (before after : Cell α) (confirmed : Prop) : Prop :=
  before.dirty = true ∧ after.value = before.value ∧ (after.dirty = true ∨ confirmed)

/-- What the answer to a write makes of the cells whose values the request carried, whatever they
hold by now. -/
structure KeepsCarried (s t : Scene) (plan : Plan) (answer : Answer) : Prop where
  lights : ∀ kind path sent, plan = .membership kind path sent →
    ∃ g g', s.state.group? kind = some g ∧ t.state.group? kind = some g' ∧ g.path = path ∧
      KeptUnless g.lights g'.lights
        (∃ response, answer = .ok response ∧ ConfirmsLights plan response g)
  brightness : ∀ path command, plan = .values path command → command.bri.isSome = true →
    ∃ g g', s.state.group? .brightness = some g ∧ t.state.group? .brightness = some g' ∧
      KeptUnless g.brightness g'.brightness (∃ response, answer = .ok response ∧
        ConfirmsValue plan response "/bri" (g.brightness.value.map (·.toNat)))
  colorTemp : ∀ path command, plan = .values path command → command.ct.isSome = true →
    ∃ g g', s.state.group? .temperature = some g ∧ t.state.group? .temperature = some g' ∧
      KeptUnless g.colorTemp g'.colorTemp (∃ response, answer = .ok response ∧
        ConfirmsValue plan response "/ct" (g.colorTemp.value.map (·.toNat)))

theorem KeepsValues.congr {s t u : State} (h : KeepsValues s t) (same : t.unclaimed = u.unclaimed) :
    KeepsValues s u :=
  ⟨by rw [← State.groups_congr same, h.1], fun kind =>
    (State.place_congr same kind).symm.trans (h.2 kind)⟩

theorem KeepsValues.group {s t : State} (h : KeepsValues s t) {kind : GroupKind} {g : Group}
    (before : s.group? kind = some g) : ∃ g', t.group? kind = some g' ∧ g'.values = g.values := by
  have same := State.view_group? h.1 h.2 kind
  rw [before, Option.map_some] at same
  exact Option.map_eq_some_iff.1 same

theorem keepsValues_go (s : Scene) (d : Driver) : KeepsValues s.state (s.next (.go d)).state :=
  KeepsValues.congr ⟨rfl, fun _ => rfl⟩ (s.unclaimed_next (.go d)).symm

/-- The answer to a write keeps every value. -/
theorem keepsValues_answer {s : Scene} {d : Driver} {plan : Plan}
    (waiting : s.underway d = some plan) (writes : Writes plan) (answer : Answer) (canRun : Bool)
    (heard : List Change) :
    KeepsValues s.state (s.next (.answer d answer canRun heard)).state := by
  refine KeepsValues.congr ?_ (s.unclaimed_next (.answer d answer canRun heard)).symm
  simp only [settled, waiting, State.take]
  cases outcome : plan.read answer with
  | error failure => exact ⟨rfl, fun _ => rfl⟩
  | ok u =>
    have confirms : (∃ kind path confirmed, u = .membership kind path confirmed) ∨
        ∃ bri ct, u = .values bri ct := by
      cases Plan.read_eq_ok_iff.1 outcome with
      | membership kind path lights => exact .inl ⟨_, _, _, rfl⟩
      | values path command => exact .inr ⟨_, _, rfl⟩
      | _ => rcases writes with no | no <;> cases no
    have quiet : u.loads = false ∧ ∀ groups, u ≠ .groups groups := by
      rcases confirms with ⟨_, _, _, rfl⟩ | ⟨_, _, rfl⟩ <;>
        exact ⟨rfl, fun _ same => by cases same⟩
    simp only [quiet.1, Bool.false_and, Bool.false_eq_true, if_false]
    exact ⟨State.values_update confirms, State.place_update quiet.2⟩

/-- Who is answered is known from the event. -/
theorem Answers.eq {s : Scene} {d : Driver} {plan plan' : Plan} {answer : Answer} {canRun : Bool}
    {heard : List Change} {response : Response} (waiting : s.underway d = some plan)
    (h : s.Answers (.answer d answer canRun heard) plan' response) :
    answer = .ok response ∧ plan' = plan := by
  obtain ⟨d', canRun', heard', same, waiting'⟩ := h
  cases same
  exact ⟨rfl, Option.some.inj (waiting'.symm.trans waiting)⟩

theorem keepsCarried {s : Scene} (h : s.InFlight) {d : Driver} {plan : Plan}
    (waiting : s.underway d = some plan) (writes : Writes plan) (answer : Answer) (canRun : Bool)
    (heard : List Change) :
    KeepsCarried s (s.next (.answer d answer canRun heard)) plan answer := by
  have kept := keepsValues_answer waiting writes answer canRun heard
  have carries := (h d plan waiting).1
  constructor
  · rintro kind path sent rfl
    obtain ⟨g, before, here, dirty⟩ := carries
    obtain ⟨g', after, values⟩ := kept.group before
    refine ⟨g, g', before, after, here, dirty, congrArg (·.2.2.1) values, ?_⟩
    cases clean : g'.lights.dirty with
    | true => exact .inl rfl
    | false =>
      obtain ⟨plan', response, answers, confirms⟩ :=
        (cleansConfirmed before after).lights dirty clean
      obtain ⟨answered, rfl⟩ := answers.eq waiting
      exact .inr ⟨response, answered, confirms⟩
  · rintro path command rfl carried
    obtain ⟨g, before, dirty⟩ := carries.1 carried
    obtain ⟨g', after, values⟩ := kept.group before
    refine ⟨g, g', before, after, dirty, congrArg (·.2.2.2.1) values, ?_⟩
    cases clean : g'.brightness.dirty with
    | true => exact .inl rfl
    | false =>
      obtain ⟨plan', response, answers, confirms⟩ :=
        (cleansConfirmed before after).brightness dirty clean
      obtain ⟨answered, rfl⟩ := answers.eq waiting
      exact .inr ⟨response, answered, confirms⟩
  · rintro path command rfl carried
    obtain ⟨g, before, dirty⟩ := carries.2 carried
    obtain ⟨g', after, values⟩ := kept.group before
    refine ⟨g, g', before, after, dirty, congrArg (·.2.2.2.2) values, ?_⟩
    cases clean : g'.colorTemp.dirty with
    | true => exact .inl rfl
    | false =>
      obtain ⟨plan', response, answers, confirms⟩ :=
        (cleansConfirmed before after).colorTemp dirty clean
      obtain ⟨answered, rfl⟩ := answers.eq waiting
      exact .inr ⟨response, answered, confirms⟩

/-- Clean means confirmed. In every run whose steps are made one at a time, whatever the bridge
answers and whatever changes come meanwhile, an event cleans a cell of a managed group only by
confirming what the cell holds at that moment. Writing changes no value, so what was wanted while a
write was under way is kept, and stays dirty unless the answer happens to confirm it. -/
theorem clean_means_confirmed (settings : SyncSettings) (wording : Wording) (events : List Event)
    (single : Run.Admitted next OneAtATime (new settings wording) events) :
    let s := (new settings wording).run events
    (∀ e kind g g', s.state.group? kind = some g → (s.next e).state.group? kind = some g' →
      s.CleansConfirmed e g g') ∧
    (∀ d, KeepsValues s.state (s.next (.go d)).state) ∧
    ∀ d plan answer canRun heard, s.underway d = some plan → Writes plan →
      KeepsValues s.state (s.next (.answer d answer canRun heard)).state ∧
      KeepsCarried s (s.next (.answer d answer canRun heard)) plan answer := by
  intro s
  refine ⟨fun e kind g g' before after => cleansConfirmed before after, keepsValues_go s, ?_⟩
  intro d plan answer canRun heard waiting writes
  exact ⟨keepsValues_answer waiting writes answer canRun heard,
    keepsCarried (inFlight_run single) waiting writes answer canRun heard⟩

/-- Light 1 is sent for a group while light 2 comes to be wanted: whatever the answer is, light 2
is kept, and it stays to be sent. -/
theorem clean_means_confirmed_of_change_in_flight :
    let settings := { SyncSettings.manual with brightnessGroup := "A", temperatureGroup := "A" }
    let events : List Event := [
      .go (.hand 0), .answer (.hand 0) (.ok ⟨200, .obj []⟩) true [],
      .go (.hand 0), .answer (.hand 0) (.ok ⟨200, .obj [("1", .obj [("name", .str "A")])]⟩) true [],
      .change true (.setLights .brightness (.ofList ["1"])), .go (.hand 0),
      .change true (.setLights .brightness (.ofList ["2"]))]
    let s := (new settings .brief).run events
    let plan : Plan := .membership .brightness "/groups/1" (.ofList ["1"])
    Run.Admitted next OneAtATime (new settings .brief) events ∧ s.underway (.hand 0) = some plan ∧
      ∀ answer canRun heard,
        KeepsCarried s (s.next (.answer (.hand 0) answer canRun heard)) plan answer := by
  intro settings events s plan
  have single : Run.Admitted next OneAtATime (new settings .brief) events := by
    apply admitted_of_onlyDriver (onlyDriver_new settings .brief (.hand 0))
    intro d' mem
    simpa [events] using mem
  have waiting : s.underway (.hand 0) = some plan := by decide +kernel
  refine ⟨single, waiting, ?_⟩
  intro answer canRun heard
  exact ((clean_means_confirmed settings .brief events single).2.2 _ _ answer canRun heard waiting
    (.inl rfl)).2

end Scene
end LightSync.Reconciler
