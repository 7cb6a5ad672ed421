import LightSync.Household.Basic
import LightSync.Proofs.Agenda
import LightSync.Proofs.Drains
import LightSync.Proofs.EchoingHub
import LightSync.Proofs.Storage

/-!
# Convergence

A household whose bridge has become obliging is drained: every step completes and takes itself off
the agenda, so after at most seven of them nothing is left to do. What is wanted is then stored on
the bridge, whatever was refused or lost before.

## Main definitions

- `World`: a household and the bridge behind it
- `World.Converged`: nothing is left to do, and what is wanted is stored
-/

namespace LightSync.Reconciler

open Bridge

/-- Only listing the groups loads the managed ones. -/
theorem Plan.Reads.eq_loadGroups {plan : Plan} {answer : Answer} {u : Update}
    (h : plan.Reads answer u) (loads : u.loads = true) : plan = .loadGroups := by
  cases h with
  | groups => rfl
  | _ => cases loads

/-- A household and its bridge, with nothing else around. The household may listen for the managed
groups being loaded, and then pushes everything desired. -/
structure World {β : Type} (hub : Hub β) (σ : Type) where
  household : Household σ
  listening : Bool
  memory : β

namespace World

variable {β σ : Type} {hub : Hub β} {good : β → Prop}

abbrev sync (w : World hub σ) : Reconciler := w.household.sync

/-- What is clean is stored, and the bridge is in a good state. -/
structure Steady (good : β → Prop) (w : World hub σ) : Prop where
  good : good w.memory
  sound : w.sync.state.Sound (hub.stored w.memory)

/-- Nothing is left to do, and what is wanted is stored on the bridge. -/
structure Converged (w : World hub σ) : Prop where
  listed : w.sync.state.Listed
  idle : w.sync.state.plan w.sync.settings = none
  lights : w.sync.state.isReady = true → ∀ kind g, w.sync.state.group? kind = some g →
    g.lights.isEmpty = false →
    g.lights.dirty = false ∧ g.lights.value = some (hub.stored w.memory g.path)
  brightness : w.sync.state.isReady = true → ∀ g, w.sync.state.group? .brightness = some g →
    g.lights.isEmpty = false → g.brightness.dirty = false ∨ g.brightness.value = some 0
  temperature : w.sync.state.isReady = true → ∀ g, w.sync.state.group? .temperature = some g →
    g.lights.isEmpty = false → g.colorTemp.dirty = false ∨ g.colorTemp.value = some 0

theorem converged_of_idle {w : World hub σ} (steady : w.Steady good)
    (idle : w.sync.state.plan w.sync.settings = none) : w.Converged := by
  obtain ⟨listed, nothing⟩ := State.listed_of_plan_none idle
  have pending (ready : w.sync.state.isReady = true) :
      ∃ b t, w.sync.state.group? .brightness = some b ∧
        w.sync.state.group? .temperature = some t ∧
        State.pendingValue 0 b.brightness b.lights = none ∧
        State.pendingValue 0 t.colorTemp t.lights = none := by
    obtain ⟨known, known'⟩ := Bool.and_eq_true_iff.1 ready
    obtain ⟨b, found⟩ := Option.isSome_iff_exists.1 known
    obtain ⟨t, found'⟩ := Option.isSome_iff_exists.1 known'
    exact ⟨b, t, found, found',
      State.pendingValue_of_planValues_none found found' (nothing ready).2⟩
  refine ⟨listed, idle, ?_, ?_, ?_⟩
  · intro ready kind g found wanted
    have clean := State.clean_of_planMembership_none ((nothing ready).1 kind) found wanted
    exact ⟨clean, steady.sound.lights kind g found clean wanted⟩
  · intro ready g found wanted
    obtain ⟨b, -, found', -, none, -⟩ := pending ready
    cases found.symm.trans found'
    exact State.clean_of_pendingValue_none none
      (steady.sound.values .brightness g found).1 wanted
  · intro ready g found wanted
    obtain ⟨-, t, -, found', -, none⟩ := pending ready
    cases found.symm.trans found'
    exact State.clean_of_pendingValue_none none
      (steady.sound.values .temperature g found).2 wanted

/-! ## Steps -/

variable [Household.Host σ]

instance : Environment (World hub σ) where
  sync w := w.household.sync
  withSync w sync := { w with household := { w.household with sync } }
  exchange w request :=
    let taken := hub.take w.memory request
    ({ w with memory := taken.1 }, taken.2)
  pause w _ := w
  interleave w := w
  ready w := if w.listening then { w with household := w.household.pushDesired } else w

/-- Whoever listens only edits what is wanted of the managed groups. -/
theorem ready_edits (w : World hub σ) :
    (Environment.ready w).memory = w.memory ∧
      ∃ cs : List Change, (∀ c ∈ cs, c.edit?.isSome = true) ∧
        (Environment.ready w).sync.state.unclaimed = (w.sync.state.changes cs).unclaimed := by
  by_cases listening : w.listening = true
  · have pushed : Environment.ready w = { w with household := w.household.pushDesired } :=
      if_pos listening
    let h := w.household
    let cs : List Change := [
      .setLights .brightness (h.followers h.followsBrightness),
      .setLights .temperature (h.followers h.followsTemperature),
      .setBrightness h.desired.brightness, .setTemperature h.desired.temperature]
    rw [pushed]
    refine ⟨rfl, cs, ?_, unclaimed_changeAll _ true cs⟩
    intro c mem
    simp only [cs, List.mem_cons, List.not_mem_nil, or_false] at mem
    rcases mem with rfl | rfl | rfl | rfl <;> rfl
  · have same : Environment.ready w = w := if_neg listening
    rw [same]
    exact ⟨rfl, [], by simp, rfl⟩

/-- A step whose answer can be read makes the update, and tells of the managed groups if they were
loaded. -/
theorem step_of_reads {w : World hub σ} {plan : Plan} {u : Update}
    (planned : w.sync.state.plan w.sync.settings = some plan)
    (reads : plan.Reads (hub.take w.memory plan.request).2 u) :
    ∃ done : World hub σ,
      done.memory = (hub.take w.memory plan.request).1 ∧
      done.sync.state = w.sync.state.update w.sync.settings u ∧
      Environment.step w = (if u.loads && done.sync.state.isReady then Environment.ready done
        else done, .completed plan.step) := by
  let taken := hub.take w.memory plan.request
  let state := w.sync.state.update w.sync.settings u
  obtain ⟨log, journal, finished⟩ :=
    finish_of_ok (Plan.read_eq_ok_iff.2 reads) (w.sync.announce plan)
  have same : (w.sync.announce plan).state.update (w.sync.announce plan).settings u = state := by
    obtain ⟨_, _, announced⟩ := eq_with_of_silent (silent_announce w.sync plan)
    rw [announced]
  rw [same] at finished
  let done : World hub σ := { w with
    memory := taken.1
    household := { w.household with sync := { w.sync.announce plan with state, log, journal } } }
  refine ⟨done, rfl, rfl, ?_⟩
  have heard : (Environment.request (Environment.withSync w (w.sync.announce plan))
      plan.request).2 = taken.2 := rfl
  have read : (Environment.sync (Environment.request (Environment.withSync w
      (w.sync.announce plan)) plan.request).1).finish plan taken.2 =
      (done.sync, .completed plan.step, u.loads && done.sync.state.isReady) := finished
  have served : Environment.serve (Environment.withSync w (w.sync.announce plan)) plan =
      (if u.loads && done.sync.state.isReady then Environment.ready done else done,
        .completed plan.step) := by
    simp only [Environment.serve, Environment.finishStep, heard, read]
    rfl
  exact (Environment.step_of_plan planned).trans served

/-- Such a step leaves the state that the update makes, after the groups were listed perhaps with
some edits of the managed ones. -/
theorem step_of_plan {w : World hub σ} {plan : Plan} {u : Update}
    (planned : w.sync.state.plan w.sync.settings = some plan)
    (reads : plan.Reads (hub.take w.memory plan.request).2 u) :
    ∃ w' : World hub σ, Environment.step w = (w', .completed plan.step) ∧
      w'.memory = (hub.take w.memory plan.request).1 ∧
      ∃ cs : List Change, (∀ c ∈ cs, c.edit?.isSome = true) ∧ (plan ≠ .loadGroups → cs = []) ∧
        w'.sync.state.unclaimed =
          ((w.sync.state.update w.sync.settings u).changes cs).unclaimed := by
  obtain ⟨done, memory, state, stepped⟩ := step_of_reads planned reads
  refine ⟨_, stepped, ?_⟩
  rw [← state, ← memory]
  by_cases told : (u.loads && done.sync.state.isReady) = true
  · rw [if_pos told]
    obtain ⟨same, cs, edits, wanted⟩ := ready_edits done
    -- Only after a listing of the groups is somebody told, and then everything is due anyway.
    have loaded := reads.eq_loadGroups (Bool.and_eq_true_iff.1 told).1
    exact ⟨same, cs, edits, fun other => absurd loaded other, wanted⟩
  · rw [if_neg told]
    exact ⟨rfl, [], by simp, fun _ => rfl, rfl⟩

/-- A step that has something to do completes it, and takes it off the agenda. -/
theorem step_of_steady (faithful : hub.Faithful) (obliging : hub.Obliging good)
    {w : World hub σ} (steady : w.Steady good) {plan : Plan}
    (planned : w.sync.state.plan w.sync.settings = some plan) :
    ∃ w' : World hub σ, Environment.step w = (w', .completed plan.step) ∧ w'.Steady good ∧
      (plan.step :: w'.sync.state.agenda).Sublist w.sync.state.agenda := by
  obtain ⟨u, reads⟩ := obliging.reads steady.good plan
  have confirmed := obliging.confirmed steady.good reads
  have updated : (w.sync.state.update w.sync.settings u).Sound
      (hub.stored (hub.take w.memory plan.request).1) :=
    faithful.sound_update steady.sound (State.carries_of_plan planned) reads
  obtain ⟨w', stepped, memory, cs, edits, quiet, same⟩ := step_of_plan planned reads
  refine ⟨w', stepped, ⟨?_, ?_⟩, ?_⟩
  · rw [memory]
    exact obliging.next w.memory plan steady.good
  · rw [memory]
    exact (updated.rewanted (State.rewanted_changes _ cs)).congr same.symm
  · rw [State.agenda_congr same]
    exact State.agenda_of_plan planned confirmed edits quiet

/-- Steps are made until the agenda is done, and no more. -/
theorem drainUpTo_of_steady (faithful : hub.Faithful) (obliging : hub.Obliging good) (limit : Nat)
    {w : World hub σ} (steady : w.Steady good)
    (short : w.sync.state.agenda.length < limit) :
    ∃ (final : World hub σ) (steps : List Step),
      Environment.drainUpTo w limit = (final, steps.map .completed ++ [.idle]) ∧
      steps.Sublist w.sync.state.agenda ∧ final.Converged := by
  -- Each step shortens the agenda, so the limit is never what ends the drain.
  induction limit generalizing w with
  | zero => exact absurd short (Nat.not_lt_zero _)
  | succ limit ih =>
    cases planned : w.sync.state.plan w.sync.settings with
    | none =>
      have made : Environment.step w = (w, .idle) := Environment.step_of_plan_none planned
      exact ⟨w, [], Environment.drainUpTo_of_idle made limit, List.nil_sublist _,
        converged_of_idle steady planned⟩
    | some plan =>
      obtain ⟨w', stepped, steady', off⟩ := step_of_steady faithful obliging steady planned
      have fewer : w'.sync.state.agenda.length < limit := by
        have := off.length_le
        rw [List.length_cons] at this
        omega
      obtain ⟨final, steps, rest, sublist, converged⟩ := ih steady' fewer
      refine ⟨final, plan.step :: steps, ?_, (sublist.cons_cons _).trans off, converged⟩
      rw [Environment.drainUpTo_of_completed stepped, rest]
      rfl

/-- A bridge may refuse requests and lose replies for as long as it likes. Once it is obliging, a
drain completes at most seven steps and ends idle: nothing is left to do, and what is wanted is
stored. -/
theorem drain_converges (faithful : hub.Faithful) (obliging : hub.Obliging good)
    {settings : SyncSettings} {wording : Wording} {memory : β} {events : List (Linked.Event β)}
    (undisturbed : Run.Admitted (Linked.next hub) (Linked.Undisturbed hub)
      ⟨.new settings wording, memory⟩ events)
    (w : World hub σ)
    (state : w.sync.state =
      (Run.after (Linked.next hub) ⟨.new settings wording, memory⟩ events).scene.state)
    (bridge : w.memory =
      (Run.after (Linked.next hub) ⟨.new settings wording, memory⟩ events).memory)
    (now : good w.memory) :
    ∃ (final : World hub σ) (steps : List Step),
      Environment.drain w = (final, steps.map .completed ++ [.idle]) ∧
      steps.Sublist State.fullAgenda ∧ steps.length ≤ 7 ∧ final.Converged := by
  have steady : w.Steady good := by
    refine ⟨now, ?_⟩
    rw [state, bridge]
    exact (Linked.sound_run faithful undisturbed).2
  have all := w.sync.state.agenda_sublist
  have short : w.sync.state.agenda.length < Environment.drainLimit :=
    Nat.lt_of_le_of_lt all.length_le (by decide)
  obtain ⟨final, steps, drained, sublist, converged⟩ :=
    drainUpTo_of_steady faithful obliging Environment.drainLimit steady short
  exact ⟨final, steps, drained, sublist.trans all, (sublist.trans all).length_le, converged⟩

/-- A bridge with a sofa and the two managed groups, which loses its next reply to a write. -/
def sofaHub : Hub (Nat × Bool × (String → NameSet)) :=
  (Hub.echoing [("5", .obj [("name", .str "Sofa"), ("uniqueid", .str "five")])] [
    ("1", .obj [("name", .str "Auto Brightness")]),
    ("2", .obj [("name", .str "Auto Temperature")])]).losing

/-- Everything is listed, the sofa is wanted in the first group, and the reply to that membership is
lost. Then all is to be listed again. -/
def membershipLost : List (Linked.Event (Nat × Bool × (String → NameSet))) := [
  .go (.hand 0), .answer (.hand 0) false [], .go (.hand 0), .answer (.hand 0) false [],
  .change false (.setLights .brightness (.ofList ["5"])), .change false (.setBrightness 100),
  .go (.hand 0), .answer (.hand 0) false [], .change false .requestReload]

/-- The bridge has stored a membership of which the reply was lost. The household, which follows the
sofa, wants it in both groups as soon as they are listed again; the drain sends the memberships and
the values, and they are stored. -/
theorem drain_converges_of_lost_reply :
    let reached := Run.after (Linked.next sofaHub)
      ⟨.new .manual .brief, 1, true, fun _ => ∅⟩ membershipLost
    let sofa := (Household.Entity.light "light.sofa" "five" "Sofa").on (some 250) (some 209)
    let w : World sofaHub Simulation.ScriptedHost :=
      ⟨.new .default (.ofEntities [sofa]) reached.scene.sync, true, reached.memory⟩
    (w.sync.state.group? .brightness).map (·.lights.dirty) = some true ∧
    sofaHub.stored w.memory "/groups/1" = .ofList ["5"] ∧
    (Environment.drain w).2 = [.completed .loadLights, .completed .loadGroups,
      .completed .updateGroupMembership, .completed .updateGroupMembership,
      .completed .updateGroupValues, .idle] ∧
    sofaHub.stored (Environment.drain w).1.memory "/groups/2" = .ofList ["5"] ∧
    ∃ (final : World sofaHub Simulation.ScriptedHost) (steps : List Step),
      Environment.drain w = (final, steps.map .completed ++ [.idle]) ∧
      steps.Sublist State.fullAgenda ∧ steps.length ≤ 7 ∧ final.Converged := by
  intro reached sofa w
  have lights : ¬ Unlisted Light.ofRecord? (.obj [
      ("5", .obj [("name", .str "Sofa"), ("uniqueid", .str "five")])]) := by
    rintro (other | ⟨_, number, record, same, found, bad⟩)
    · exact other _ rfl
    · cases same
      cases List.mem_singleton.1 ((Json.lookup_eq_some_iff (by decide)).1 found)
      exact nomatch bad
  have groups : ¬ Unlisted Group.ofRecord? (.obj [
      ("1", .obj [("name", .str "Auto Brightness")]),
      ("2", .obj [("name", .str "Auto Temperature")])]) := by
    rintro (other | ⟨_, number, record, same, found, bad⟩)
    · exact other _ rfl
    · cases same
      have mem := (Json.lookup_eq_some_iff (by decide)).1 found
      simp only [List.mem_cons, List.not_mem_nil, or_false] at mem
      rcases mem with same | same <;> (cases same; exact nomatch bad)
  have undisturbed : Run.Admitted (Linked.next sofaHub) (Linked.Undisturbed sofaHub)
      ⟨.new .manual .brief, 1, true, fun _ => ∅⟩ membershipLost :=
    Linked.undisturbed_of_onlyDriver (Scene.onlyDriver_new .manual .brief (.hand 0))
      (by simp [membershipLost]) (by simp [membershipLost])
  refine ⟨by decide +kernel, by decide +kernel, by decide +kernel, by decide +kernel, ?_⟩
  exact drain_converges (Hub.faithful_echoing _ _).losing
    (Hub.obliging_echoing lights groups).losing undisturbed w rfl rfl (by decide +kernel)

end World
end LightSync.Reconciler
