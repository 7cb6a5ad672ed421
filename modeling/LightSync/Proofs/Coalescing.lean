import Mathlib
import LightSync.Proofs.Agenda
import LightSync.Proofs.Mirroring
import LightSync.Proofs.RecordingHub

/-!
# One request for two values

If both managed groups have the same lights, one request carries both values, and goes to the group
of the brightness. This does what two requests to the two groups do: values are only planned once
both memberships are confirmed, so the bridge has the same lights stored for both groups.

## Main definitions

- `Lamp`: what a light made of the commands that it received
- `Response.Echoes`: a reply that confirms exactly what was sent
- `DoesBoth`: one request does what two others do
-/

namespace LightSync

namespace Bridge

/-! ## Lights that receive commands -/

/-- A command that sets these values and nothing else, with any fade. -/
structure Command.Sets (c : Command) (bri : Option UInt8) (ct : Option UInt16) : Prop where
  on : c.on = none
  bri : c.bri = bri
  ct : c.ct = ct

/-- The brightness and the color temperature of a light, where they are known. -/
structure Lamp where
  bri : Option UInt8
  ct : Option UInt16

namespace Lamp

def obey (l : Lamp) (c : Command) : Lamp := ⟨c.bri.or l.bri, c.ct.or l.ct⟩

/-- The light after some commands, the oldest first. -/
def after (l : Lamp) (commands : List Command) : Lamp := commands.foldl obey l

/-- Two values that are sent together do what they do one after the other. -/
theorem after_both {l : Lamp} {commands : List Command} {bri : UInt8} {ct : UInt16}
    {both first second : Command} (hboth : both.Sets (some bri) (some ct))
    (hfirst : first.Sets (some bri) none) (hsecond : second.Sets none (some ct)) :
    l.after (commands ++ [both]) = l.after (commands ++ [first] ++ [second]) := by
  simp only [after, List.foldl_append, List.foldl_cons, List.foldl_nil, obey, hboth.bri, hboth.ct,
    hfirst.bri, hfirst.ct, hsecond.bri, hsecond.ct, Option.some_or, Option.none_or]

end Lamp

/-! ## Replies that echo -/

/-- The response confirms the attributes of a command, and nothing else of that path. -/
structure Response.Echoes (response : Response) (path : String) (command : Command) : Prop where
  ok : response.status = 200
  confirms : ∀ name value, response.Confirms (path ++ "/" ++ name) value ↔
    (name, value) ∈ command.attributes

theorem Response.echoes_echo (path : String) (command : Command) :
    Response.Echoes ⟨200, Simulation.echo path command.toJson.canonical⟩ path command where
  ok := rfl
  confirms name value := by
    rw [canonical_command]
    refine confirms_echo_iff ?_ (readable_attributes command)
    exact List.Pairwise.sublist (keys_attributes command) (by decide)

theorem Command.mem_attributes_bri {c : Command} {v : UInt8} :
    ("bri", Json.int v.toNat) ∈ c.attributes ↔ c.bri = some v := by
  simp [Command.attributes, Json.ofNat, UInt8.toNat_inj]

theorem Command.mem_attributes_ct {c : Command} {v : UInt16} :
    ("ct", Json.int v.toNat) ∈ c.attributes ↔ c.ct = some v := by
  simp [Command.attributes, Json.ofNat, UInt16.toNat_inj]

end Bridge

namespace Reconciler

open Bridge

namespace State

variable {s : State} {settings : SyncSettings} {path : String} {command : Command}

/-- An echo confirms the values that the request carries. -/
theorem take_of_echoes {response : Response} (echo : response.Echoes path command)
    (heard : List Change) : s.take settings (.values path command) (.ok response) heard =
      s.update settings (.values command.bri command.ct) := by
  have bri : confirmedBrightness (replyOf response) path = command.bri := by
    apply Option.ext
    intro v
    rw [confirmedBrightness_eq_some_iff, ← Command.mem_attributes_bri, ← echo.confirms,
      String.append_assoc]
    rfl
  have ct : confirmedColorTemp (replyOf response) path = command.ct := by
    apply Option.ext
    intro v
    rw [confirmedColorTemp_eq_some_iff, ← Command.mem_attributes_ct, ← echo.confirms,
      String.append_assoc]
    rfl
  have read : (Plan.values path command).read (.ok response) =
      .ok (.values command.bri command.ct) := by
    rw [← bri, ← ct]
    exact Plan.read_eq_ok_iff.2 (.values path command echo.ok)
  rw [take, read]
  rfl

theorem modifyGroup_of_id {f : Group → Group} (same : ∀ g, f g = g) (s : State)
    (kind : GroupKind) : s.modifyGroup kind f = s := by
  have is : f = id := funext same
  unfold modifyGroup
  split
  · next place groups _ listed => rw [is, List.modify_id, ← listed]
  · rfl

/-- Two values that are confirmed together are confirmed one after the other. -/
theorem update_values_apart (s : State) (settings : SyncSettings) (bri : Option UInt8)
    (ct : Option UInt16) : s.update settings (.values bri ct) =
      (s.update settings (.values bri none)).update settings (.values none ct) := by
  have noColorTemp (t : State) : (t.modifyGroup .temperature fun g =>
      { g with colorTemp := confirm none g.colorTemp }) = t :=
    modifyGroup_of_id (fun _ => rfl) t .temperature
  have noBrightness (t : State) : (t.modifyGroup .brightness fun g =>
      { g with brightness := confirm none g.brightness }) = t :=
    modifyGroup_of_id (fun _ => rfl) t .brightness
  simp only [update, noColorTemp, noBrightness]

/-! ## Values that are pending together -/

/-- If a request carries both values, it goes to the group of the brightness, and both groups are
wanted to have the same lights. -/
theorem together_of_sets {b t : Group} {bri : UInt8} {ct : UInt16}
    (sets : (valuesCommand settings b t).Sets (some bri) (some ct)) :
    valuesPath b t = b.actionPath ∧ b.lights.value = t.lights.value ∧
      pendingValue 0 b.brightness b.lights = some bri ∧
      pendingValue 0 t.colorTemp t.lights = some ct := by
  have pending : pendingValue 0 b.brightness b.lights = some bri := sets.bri
  have carried := sets.ct
  simp only [valuesCommand] at carried
  split at carried
  · next together =>
    rcases together with none | same
    · cases pending.symm.trans none
    · refine ⟨?_, same, pending, carried⟩
      rw [valuesPath, pending]
      rfl
  · cases carried

/-- Where the lights differ, the brightness goes first. -/
theorem valuesCommand_of_differ (settings : SyncSettings) {b t : Group} {bri : UInt8}
    (pending : pendingValue 0 b.brightness b.lights = some bri)
    (differ : b.lights.value ≠ t.lights.value) :
    valuesPath b t = b.actionPath ∧ (valuesCommand settings b t).Sets (some bri) none := by
  have apart : ¬ (pendingValue 0 b.brightness b.lights = none ∨
      b.lights.value = t.lights.value) := by
    rw [pending]
    exact not_or.2 ⟨nofun, differ⟩
  exact ⟨by rw [valuesPath, pending]; rfl, rfl, pending, if_neg apart⟩

/-- Without a brightness, the color temperature goes to its own group. -/
theorem valuesCommand_of_no_brightness (settings : SyncSettings) {b t : Group} {ct : UInt16}
    (none : pendingValue 0 b.brightness b.lights = none)
    (pending : pendingValue 0 t.colorTemp t.lights = some ct) :
    valuesPath b t = t.actionPath ∧ (valuesCommand settings b t).Sets .none (some ct) :=
  ⟨by rw [valuesPath, none]; rfl, rfl, none, (if_pos (.inl none)).trans pending⟩

/-- Once a brightness is confirmed, the color temperature of other lights is planned next. -/
theorem plan_after_brightness {b t : Group} {bri : UInt8} {ct : UInt16}
    (listed : s.Listed) (memberships : ∀ kind, s.planMembership kind = none)
    (hb : s.group? .brightness = some b) (ht : s.group? .temperature = some t)
    (pendingBri : pendingValue 0 b.brightness b.lights = some bri)
    (pendingCt : pendingValue 0 t.colorTemp t.lights = some ct)
    (differ : b.lights.value ≠ t.lights.value) :
    ∃ next : Command, next.Sets none (some ct) ∧
      (s.update settings (.values (some bri) none)).plan settings =
        some (.values t.actionPath next) := by
  let s' := s.update settings (.values (some bri) none)
  have apart : s.place .temperature ≠ s.place .brightness := fun same => by
    have here := group?_of_place_eq same
    rw [hb, ht, Option.some.injEq] at here
    exact differ (congrArg (·.lights.value) here.symm)
  have hb' : s'.group? .brightness = some { b with brightness := b.brightness.clean } := by
    have held := (pendingValue_eq_some_iff.1 pendingBri).2.2.1
    simp only [s', group?_update_values, hb, Option.map_some, if_true, Cell.confirm_eq_clean held]
    simp only [confirm, ite_self]
  have ht' : s'.group? .temperature = some t := by
    simp only [s', group?_update_values, ht, Option.map_some, if_true, if_neg apart]
    rfl
  have memberships' (kind : GroupKind) : s'.planMembership kind = none := by
    have settled := (settledBy_values s settings (some bri) none).due.1 kind
    simpa [membershipDue, memberships kind] using settled
  have listed' : s'.Listed := listed.sameRequests
    ((sameRequests_modifyGroup s .brightness _).trans (sameRequests_modifyGroup _ .temperature _))
  let b' : Group := { b with brightness := b.brightness.clean }
  have settledBri : pendingValue 0 b'.brightness b'.lights = none := rfl
  obtain ⟨path, sets⟩ := valuesCommand_of_no_brightness settings settledBri pendingCt
  have values : s'.planValues settings =
      some (.values t.actionPath (valuesCommand settings b' t)) := by
    rw [planValues_eq hb' ht', sets.ct, path]
    rfl
  exact ⟨_, sets, plan_of_planValues listed' memberships' values⟩

end State

/-! ## One request or two -/

variable {β : Type} {hub : Hub β} {told : β → String → List Command}

/-- One request does what two others do one after the other: on every light of a bridge that accepts
them, and in the state once they are echoed. -/
structure DoesBoth (hub : Hub β) (told : β → String → List Command) (settings : SyncSettings)
    (memory : β) (s : State) (path : String) (command : Command) (path₁ : String)
    (first : Command) (path₂ : String) (second : Command) : Prop where
  lamps : hub.Accepts memory path command → hub.Accepts memory path₁ first →
    hub.Accepts (hub.sent memory path₁ first) path₂ second → ∀ (lamp : Lamp) light,
    lamp.after (told (hub.sent memory path command) light) =
      lamp.after (told (hub.sent (hub.sent memory path₁ first) path₂ second) light)
  state : ∀ reply reply₁ reply₂ : Response, reply.Echoes path command →
    reply₁.Echoes path₁ first → reply₂.Echoes path₂ second →
    s.take settings (.values path command) (.ok reply) [] =
      (s.take settings (.values path₁ first) (.ok reply₁) []).take settings
        (.values path₂ second) (.ok reply₂) []

/-- Sending two values to a group is sending one of them to it and then the other one to a group
for which the same lights are stored. -/
theorem doesBoth_of_stored (faithful : hub.Faithful) (delivers : hub.Delivers told) {memory : β}
    {b t : Group} (same : hub.stored memory b.path = hub.stored memory t.path) {bri : UInt8}
    {ct : UInt16} {command first second : Command} (sets : command.Sets (some bri) (some ct))
    (setsFirst : first.Sets (some bri) none) (setsSecond : second.Sets none (some ct))
    (settings : SyncSettings) (s : State) :
    DoesBoth hub told settings memory s b.actionPath command b.actionPath first t.actionPath
      second where
  lamps accepted acceptedFirst acceptedSecond lamp light := by
    rw [delivers.told_group accepted, delivers.told_group acceptedSecond,
      delivers.told_group acceptedFirst, faithful.stored_sent, ← same]
    by_cases reached : light ∈ hub.stored memory b.path
    · simp only [if_pos reached]
      exact Lamp.after_both sets setsFirst setsSecond
    · simp only [if_neg reached]
  state reply reply₁ reply₂ echo echo₁ echo₂ := by
    rw [State.take_of_echoes echo, State.take_of_echoes echo₁, State.take_of_echoes echo₂,
      sets.bri, sets.ct, setsFirst.bri, setsFirst.ct, setsSecond.bri, setsSecond.ct]
    exact State.update_values_apart s settings (some bri) (some ct)

/-- One request for both values changes nothing but the number of requests. In every state reached
with a faithful bridge whose groups nobody else edits, a request that carries both values does what
two requests to the two groups do. And where both values are pending while the lights differ, the
brightness goes alone, and once it is echoed, the color temperature goes to its own group. -/
theorem one_request_does_both (faithful : hub.Faithful) (delivers : hub.Delivers told)
    {settings : SyncSettings} {wording : Wording} {memory : β} {events : List (Linked.Event β)}
    (undisturbed : Run.Admitted (Linked.next hub) (Linked.Undisturbed hub)
      ⟨.new settings wording, memory⟩ events) :
    let w := Run.after (Linked.next hub) ⟨.new settings wording, memory⟩ events
    let s := w.scene.state
    (∀ path command bri ct, s.plan settings = some (.values path command) →
      command.bri = some bri → command.ct = some ct →
      ∃ b t, s.group? .brightness = some b ∧ s.group? .temperature = some t ∧
        ∀ first second : Command, first.Sets (some bri) none → second.Sets none (some ct) →
          DoesBoth hub told settings w.memory s path command b.actionPath first t.actionPath
            second) ∧
    ∀ path command b t bri ct, s.plan settings = some (.values path command) →
      s.group? .brightness = some b → s.group? .temperature = some t →
      State.pendingValue 0 b.brightness b.lights = some bri →
      State.pendingValue 0 t.colorTemp t.lights = some ct →
      b.lights.value ≠ t.lights.value →
      path = b.actionPath ∧ command.Sets (some bri) none ∧
        ∀ reply : Response, reply.Echoes path command →
          ∃ next : Command, next.Sets none (some ct) ∧
            (s.take settings (.values path command) (.ok reply) []).plan settings =
              some (.values t.actionPath next) := by
  intro w s
  obtain ⟨-, sound⟩ := Linked.sound_run faithful undisturbed
  refine ⟨?_, ?_⟩
  · intro path command bri ct planned carriedBri carriedCt
    obtain ⟨-, -, memberships, values⟩ := State.values_of_plan planned
    obtain ⟨b, t, hb, ht, is, -⟩ := State.planValues_cases values
    obtain ⟨rfl, rfl⟩ := Plan.values.inj is
    have sets : (State.valuesCommand settings b t).Sets (some bri) (some ct) :=
      ⟨rfl, carriedBri, carriedCt⟩
    obtain ⟨path, wanted, pendingBri, pendingCt⟩ := State.together_of_sets sets
    -- No membership is planned, so the lights of both groups are confirmed, and stored.
    have stored (kind : GroupKind) (g : Group) (known : s.group? kind = some g)
        (some : g.lights.isEmpty = false) : g.lights.value = .some (hub.stored w.memory g.path) :=
      sound.lights kind g known
        (State.clean_of_planMembership_none (memberships kind) known some) some
    have storedB := stored .brightness b hb (State.pendingValue_eq_some_iff.1 pendingBri).2.1
    have storedT := stored .temperature t ht (State.pendingValue_eq_some_iff.1 pendingCt).2.1
    have same : hub.stored w.memory b.path = hub.stored w.memory t.path :=
      Option.some.inj (storedB.symm.trans (wanted.trans storedT))
    refine ⟨b, t, hb, ht, ?_⟩
    intro first second setsFirst setsSecond
    rw [path]
    exact doesBoth_of_stored faithful delivers same sets setsFirst setsSecond settings s
  · intro path command b t bri ct planned hb ht pendingBri pendingCt differ
    obtain ⟨listed, -, memberships, values⟩ := State.values_of_plan planned
    obtain ⟨b', t', hb', ht', is, -⟩ := State.planValues_cases values
    cases hb.symm.trans hb'
    cases ht.symm.trans ht'
    obtain ⟨rfl, rfl⟩ := Plan.values.inj is
    obtain ⟨path, sets⟩ := State.valuesCommand_of_differ settings pendingBri differ
    refine ⟨path, sets, ?_⟩
    intro reply echo
    rw [State.take_of_echoes echo, sets.bri, sets.ct]
    exact State.plan_after_brightness listed memberships hb ht pendingBri pendingCt differ

/-- The first managed group comes to have light 1, the second one some lights, and after that a
brightness and a color temperature are wanted of them. -/
def valuesOfTwoGroups (lights : List String) : List (Linked.Event Ledger) := [
  .go (.hand 0), .answer (.hand 0) false [], .go (.hand 0), .answer (.hand 0) false [],
  .change false (.setLights .brightness (.ofList ["1"])),
  .change false (.setLights .temperature (.ofList lights)),
  .go (.hand 0), .answer (.hand 0) false [], .go (.hand 0), .answer (.hand 0) false [],
  .change false (.setBrightness 100), .change false (.setTemperature 300)]

def twoGroups : SyncSettings :=
  { SyncSettings.manual with brightnessGroup := "A", temperatureGroup := "B" }

/-- The reconciler and its bridge after that. -/
def afterValues (lights : List String) : Linked Ledger :=
  Run.after (Linked.next (Hub.recording [("1", "A"), ("2", "B")]))
    ⟨.new twoGroups .brief, ⟨fun _ => ∅, fun _ => []⟩⟩ (valuesOfTwoGroups lights)

theorem undisturbed_afterValues (lights : List String) :
    Run.Admitted (Linked.next (Hub.recording [("1", "A"), ("2", "B")]))
      (Linked.Undisturbed (Hub.recording [("1", "A"), ("2", "B")]))
      ⟨.new twoGroups .brief, ⟨fun _ => ∅, fun _ => []⟩⟩ (valuesOfTwoGroups lights) :=
  Linked.undisturbed_of_onlyDriver (Scene.onlyDriver_new twoGroups .brief (.hand 0))
    (by simp [valuesOfTwoGroups]) (by simp [valuesOfTwoGroups])

/-- If both groups have light 1, one request is planned for both values. With light 2 in the second
group there is one for the first group, and once it is echoed, one for the second. -/
theorem one_request_does_both_of_two_groups :
    let path := "/groups/1/action"
    let both : Command := ⟨none, some 100, some 300, some 100⟩
    let alone : Command := ⟨none, some 100, none, some 100⟩
    let w := afterValues ["1"]
    let s := (afterValues ["2"]).scene.state
    (w.scene.state.plan twoGroups = some (.values path both) ∧
      ∃ b t, w.scene.state.group? .brightness = some b ∧
        w.scene.state.group? .temperature = some t ∧
        ∀ first second : Command, first.Sets (some 100) none → second.Sets none (some 300) →
          DoesBoth (Hub.recording [("1", "A"), ("2", "B")]) Ledger.told twoGroups w.memory
            w.scene.state path both b.actionPath first t.actionPath second) ∧
    s.plan twoGroups = some (.values path alone) ∧
    ∃ next : Command, next.Sets none (some 300) ∧
      (s.take twoGroups (.values path alone)
        (.ok ⟨200, Simulation.echo path alone.toJson.canonical⟩) []).plan twoGroups =
          some (.values "/groups/2/action" next) := by
  intro path both alone w s
  let b : Group := ⟨"1", "A", ⟨some (.ofList ["1"]), false, false⟩, ⟨some 100, true, true⟩,
    ⟨some 0, true, false⟩⟩
  let t : Group := ⟨"2", "B", ⟨some (.ofList ["2"]), false, false⟩, ⟨some 0, true, false⟩,
    ⟨some 300, true, true⟩⟩
  obtain ⟨planned, planned', hb, ht⟩ :
      w.scene.state.plan twoGroups = some (.values path both) ∧
      s.plan twoGroups = some (.values path alone) ∧
      s.group? .brightness = some b ∧ s.group? .temperature = some t := by
    subst w s path both alone b t
    decide_cbv
  refine ⟨⟨planned, ?_⟩, planned', ?_⟩
  · exact (one_request_does_both (Hub.faithful_recording _) (Hub.delivers_recording _)
      (undisturbed_afterValues ["1"])).1 path both 100 300 planned rfl rfl
  · exact ((one_request_does_both (Hub.faithful_recording _) (Hub.delivers_recording _)
      (undisturbed_afterValues ["2"])).2 path alone b t 100 300 planned' hb ht (by decide +kernel)
      (by decide +kernel) (by decide +kernel)).2.2 _ (Response.echoes_echo path alone)

end Reconciler
end LightSync
