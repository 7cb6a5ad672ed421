import LightSync.Proofs.Convergence
import LightSync.Proofs.Mirroring
import LightSync.Proofs.RecordingHub

/-!
# Whom direct commands reach

A command for exactly some lights is sent to a group that is wanted to have these lights, if there
is one, and else to each light. Where the membership of the group is not confirmed, the bridge may
have other lights stored for it, and then the command reaches those.

## Main definitions

- `Hub.sentAll`, `Hub.AcceptsAll`: a command that is sent to several paths
-/

namespace LightSync.Reconciler

open Bridge

/-! ## Several paths -/

namespace Hub

variable {β : Type} {hub : Hub β} {told : β → String → List Command}

/-- The bridge after a command was sent to some paths, one after the other. -/
def sentAll (hub : Hub β) (b : β) (command : Command) (paths : List String) : β :=
  paths.foldl (fun b path => hub.sent b path command) b

/-- The bridge would accept a command for one path after the other. -/
def AcceptsAll (hub : Hub β) : β → Command → List String → Prop
  | _, _, [] => True
  | b, command, path :: rest =>
    hub.Accepts b path command ∧ hub.AcceptsAll (hub.sent b path command) command rest

/-- A command that is sent to the paths of several lights is received by these. -/
theorem Delivers.told_lights (delivers : hub.Delivers told) {command : Command}
    {lights : List String} (once : lights.Nodup) {b : β}
    (accepted : hub.AcceptsAll b command (lights.map fun l => "/lights/" ++ l ++ "/state"))
    (light : String) :
    told (hub.sentAll b command (lights.map fun l => "/lights/" ++ l ++ "/state")) light =
      if light ∈ lights then told b light ++ [command] else told b light := by
  induction lights generalizing b with
  | nil => rfl
  | cons l rest ih =>
    obtain ⟨here, later⟩ := accepted
    obtain ⟨absent, once⟩ := List.nodup_cons.1 once
    have first := delivers b ("/lights/" ++ l ++ "/state") command here light
    simp only [reaches_state_iff] at first
    rw [List.map_cons, sentAll, List.foldl_cons, ← sentAll, ih once later, first]
    by_cases mine : light = l
    · subst mine
      simp [absent]
    · simp [mine]

end Hub

/-! ## Direct commands -/

namespace World

variable {β σ : Type} {hub : Hub β} [Household.Host σ] {w w' : World hub σ} {command : Command}
  {path : String} {paths : List String}

theorem sendTo_ok (done : Environment.sendTo w command path = (w', .ok ())) :
    hub.Accepts w.memory path command ∧ w'.memory = hub.sent w.memory path command := by
  let request : Request := .put path command.toJson
  let answer := (hub.take w.memory request).2
  have result : (finishDirect ((w.sync.send request).receive request answer) request answer).2 =
      .ok () := congrArg Prod.snd done
  have memory : hub.sent w.memory path command = w'.memory :=
    congrArg (fun r : World hub σ × Except Failure Unit => r.1.memory) done
  refine ⟨?_, memory.symm⟩
  unfold finishDirect at result
  split at result
  · next response accepted =>
    obtain ⟨answered, ok⟩ := Answer.accepted_eq_ok_iff.1 accepted
    exact ⟨response, answered, ok⟩
  · cases result

/-- What is accepted for the first path and then for the remaining ones is accepted for all. -/
theorem sentAll_of_first {between : World hub σ}
    (first : Environment.sendTo w command path = (between, .ok ()))
    (later : hub.AcceptsAll between.memory command paths ∧
      w'.memory = hub.sentAll between.memory command paths) :
    hub.AcceptsAll w.memory command (path :: paths) ∧
      w'.memory = hub.sentAll w.memory command (path :: paths) := by
  obtain ⟨accepted, memory⟩ := sendTo_ok first
  rw [memory] at later
  exact ⟨⟨accepted, later.1⟩, later.2⟩

theorem sendRest_ok (done : Environment.sendRest w command paths = (w', .ok ())) :
    hub.AcceptsAll w.memory command paths ∧ w'.memory = hub.sentAll w.memory command paths := by
  induction paths generalizing w with
  | nil =>
    obtain ⟨rfl, -⟩ := (Prod.mk.injEq ..).mp done
    exact ⟨trivial, rfl⟩
  | cons path rest ih =>
    rw [Environment.sendRest] at done
    split at done
    · next between first => exact sentAll_of_first first (ih done)
    · cases done

/-- A direct command that returns without a failure was accepted for all its paths. -/
theorem sendDirect_ok {lights : NameSet}
    (done : Environment.sendDirect w lights command = (w', .ok ())) :
    let paths := w.sync.state.directPaths lights command
    hub.AcceptsAll w.memory command paths ∧ w'.memory = hub.sentAll w.memory command paths := by
  intro paths
  unfold Environment.sendDirect at done
  split at done
  · next nothing =>
    obtain ⟨rfl, -⟩ := (Prod.mk.injEq ..).mp done
    have no : paths = [] := nothing
    rw [no]
    exact ⟨trivial, rfl⟩
  · next path rest several =>
    have all : paths = path :: rest := several
    rw [all]
    split at done
    · next between first => exact sentAll_of_first first (sendRest_ok done)
    · cases done

end World

/-- A command that changes something is sent for some lights to the first group that is wanted to
have exactly these, or else to each of them. -/
theorem State.directPaths_cases (s : State) {lights : NameSet} {command : Command}
    (some : lights.isEmpty = false) (valid : command.isValid = true) :
    (∃ (i : Nat) (g : Group), s.allGroups[i]? = .some g ∧ g.lights.value = .some lights ∧
      s.directPaths lights command = [g.actionPath]) ∨
    s.directPaths lights command = lights.toList.map fun l => "/lights/" ++ l ++ "/state" := by
  have goes : (lights.isEmpty || !command.isValid) = false := by rw [some, valid]; rfl
  unfold directPaths
  rw [if_neg (Bool.eq_false_iff.1 goes)]
  cases found : s.allGroups.find? (·.lights.value = .some lights) with
  | none => exact .inr rfl
  | some g =>
    obtain ⟨i, entry⟩ := List.mem_iff_getElem?.1 (List.mem_of_find?_eq_some found)
    have wanted := List.find?_some found
    exact .inl ⟨i, g, entry, of_decide_eq_true wanted, rfl⟩

namespace World

variable {β σ : Type} {hub : Hub β} [Household.Host σ] {told : β → String → List Command}

/-- Whom a direct command reaches. In every state reached with a faithful and candid bridge whose
groups nobody else edits, a command that is sent for some lights and returns without a failure is
received by exactly these lights, unless a managed group is wanted to have them and that is not
confirmed: then it is received by exactly the lights that the bridge has stored for that group. -/
theorem direct_reaches_lights_or_unconfirmed (faithful : hub.Faithful) (candid : hub.Candid)
    (delivers : hub.Delivers told) {settings : SyncSettings} {wording : Wording} {memory : β}
    {events : List (Linked.Event β)}
    (undisturbed : Run.Admitted (Linked.next hub) (Linked.Undisturbed hub)
      ⟨.new settings wording, memory⟩ events)
    (w : World hub σ)
    (state : w.sync.state =
      (Run.after (Linked.next hub) ⟨.new settings wording, memory⟩ events).scene.state)
    (bridge : w.memory =
      (Run.after (Linked.next hub) ⟨.new settings wording, memory⟩ events).memory)
    (lights : NameSet) (some : lights.isEmpty = false) (command : Command)
    (valid : command.isValid = true) (w' : World hub σ)
    (done : Environment.sendDirect w lights command = (w', .ok ())) :
    ∃ reached : NameSet,
      (∀ light, told w'.memory light =
        if light ∈ reached then told w.memory light ++ [command] else told w.memory light) ∧
      (reached = lights ∨ ∃ kind g, w.sync.state.group? kind = .some g ∧
        g.lights.dirty = true ∧ g.lights.value = .some lights ∧
        reached = hub.stored w.memory g.path) := by
  obtain ⟨⟨-, sound⟩, mirrors⟩ := Linked.mirrors_run faithful candid undisturbed
  rw [← state, ← bridge] at sound mirrors
  obtain ⟨accepted, after⟩ := sendDirect_ok done
  rcases w.sync.state.directPaths_cases some valid with ⟨i, g, entry, wanted, paths⟩ | paths
  · rw [paths] at accepted after
    refine ⟨hub.stored w.memory g.path, ?_, ?_⟩
    · rw [after]
      exact delivers.told_group accepted.1
    · by_cases managed : ∃ kind, w.sync.state.place kind = .some i
      · obtain ⟨kind, here⟩ := managed
        have known : w.sync.state.group? kind = .some g := State.group?_of_getElem? here entry
        cases dirty : g.lights.dirty with
        | true => exact .inr ⟨kind, g, known, dirty, wanted, rfl⟩
        | false =>
          have nonempty : g.lights.isEmpty = false := by
            rw [Cell.isEmpty, Cell.members, wanted]
            exact some
          have is := sound.lights kind g known dirty nonempty
          exact .inl (Option.some.inj (is.symm.trans wanted))
      · have is := mirrors.others i g entry fun kind here => managed ⟨kind, here⟩
        exact .inl (Option.some.inj (is.symm.trans wanted))
  · rw [paths] at accepted after
    refine ⟨lights, ?_, .inl rfl⟩
    intro light
    have once : lights.toList.Nodup := lights.ascending.imp fun before => by
      rintro rfl
      exact String.lt_irrefl _ before
    rw [after]
    exact delivers.told_lights once accepted light

/-- The lights are listed and then the groups, and two lights come to be wanted of a group. -/
def twoLightsWanted : List (Linked.Event Ledger) := [
  .go (.hand 0), .answer (.hand 0) false [], .go (.hand 0), .answer (.hand 0) false [],
  .change false (.setLights .brightness (.ofList ["1", "2"]))]

/-- The household after some events, with a bridge that had light 3 stored for its only group. -/
def afterEvents (settings : SyncSettings) (events : List (Linked.Event Ledger)) :
    World (Hub.recording [("1", "A")]) Simulation.ScriptedHost :=
  let reached := Run.after (Linked.next (Hub.recording [("1", "A")]))
    ⟨.new settings .brief, ⟨fun _ => .ofList ["3"], fun _ => []⟩⟩ events
  ⟨.new .default ⟨[], [], []⟩ reached.scene.sync, false, reached.memory⟩

/-- Once the two lights are stored for the group, a command for them reaches them, by one request
to the group. -/
theorem direct_reaches_lights_or_unconfirmed_of_stored :
    let settings := { SyncSettings.manual with brightnessGroup := "A", temperatureGroup := "A" }
    let events := twoLightsWanted ++ [.go (.hand 0), .answer (.hand 0) false []]
    let w := afterEvents settings events
    let lights : NameSet := .ofList ["1", "2"]
    let command := Command.empty.withBrightness ⟨100⟩
    let done := Environment.sendDirect w lights command
    w.sync.state.directPaths lights command = ["/groups/1/action"] ∧ done.2 = .ok () ∧
    ∃ reached : NameSet,
      (∀ light, done.1.memory.told light =
        if light ∈ reached then w.memory.told light ++ [command] else w.memory.told light) ∧
      (reached = lights ∨ ∃ kind g, w.sync.state.group? kind = some g ∧
        g.lights.dirty = true ∧ g.lights.value = some lights ∧
        reached = w.memory.stored g.path) := by
  intro settings events w lights command done
  have fine : done.2 = .ok () := toOption_eq_some_iff.1 (by decide +kernel)
  have undisturbed : Run.Admitted (Linked.next (Hub.recording [("1", "A")]))
      (Linked.Undisturbed (Hub.recording [("1", "A")]))
      ⟨.new settings .brief, ⟨fun _ => .ofList ["3"], fun _ => []⟩⟩ events :=
    Linked.undisturbed_of_onlyDriver (Scene.onlyDriver_new settings .brief (.hand 0))
      (by simp [events, twoLightsWanted]) (by simp [events, twoLightsWanted])
  refine ⟨by decide +kernel, fine, ?_⟩
  exact direct_reaches_lights_or_unconfirmed (Hub.faithful_recording _) (Hub.candid_recording _)
    (Hub.delivers_recording _) undisturbed w rfl rfl lights rfl command rfl done.1
    (Prod.ext rfl fine)

/-- As long as the two lights are only wanted, a command for them reaches light 3, and neither of
them. -/
theorem direct_misses_lights_while_unconfirmed :
    let settings := { SyncSettings.manual with brightnessGroup := "A", temperatureGroup := "A" }
    let w := afterEvents settings twoLightsWanted
    let command := Command.empty.withBrightness ⟨100⟩
    let done := Environment.sendDirect w (.ofList ["1", "2"]) command
    Run.Admitted (Linked.next (Hub.recording [("1", "A")]))
      (Linked.Undisturbed (Hub.recording [("1", "A")]))
      ⟨.new settings .brief, ⟨fun _ => .ofList ["3"], fun _ => []⟩⟩ twoLightsWanted ∧
    done.2 = .ok () ∧
      ["1", "2", "3"].map done.1.memory.told = [[], [], [command]] := by
  intro settings w command done
  refine ⟨?_, toOption_eq_some_iff.1 (by decide +kernel), by decide +kernel⟩
  exact Linked.undisturbed_of_onlyDriver (Scene.onlyDriver_new settings .brief (.hand 0))
    (by simp [twoLightsWanted]) (by simp [twoLightsWanted])

end World
end LightSync.Reconciler
