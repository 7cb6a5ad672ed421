import LightSync.Proofs.Reading
import LightSync.Proofs.Scene

/-!
# A failed step changes nothing

A step whose answer is refused leaves everything as the changes that were made meanwhile would have
left it on their own, but for the log and the journal. If a loop made the step, it gives up its
claim and is finished.

## Main definitions

- `Driver.leave`: what becomes of the driver of a failed step
- `Scene.meanwhile`: the changes that are made while a request is under way
-/

namespace LightSync.Reconciler

open Bridge

/-! ## Changes and the stage of a loop -/

/-- Reconcilers that differ in nothing else than the stage of a loop, the log and the journal. -/
def AlikeBut (i : Nat) (r t : Reconciler) : Prop :=
  (r.setStage i .finished).silent = (t.setStage i .finished).silent

theorem alikeBut_of_silent {i : Nat} {r t : Reconciler} (same : r.silent = t.silent) :
    AlikeBut i r t := by
  obtain ⟨log, journal, rfl⟩ := eq_with_of_silent same
  rfl

theorem alikeBut_setStage (r : Reconciler) (i : Nat) (stage : Stage) :
    AlikeBut i (r.setStage i stage) r := by
  simp only [AlikeBut, silent, setStage, modifyLoop, List.map_map, Reconciler.mk.injEq, true_and,
    and_true]
  apply List.map_congr_left
  intro l _
  by_cases here : l.id = i
  · simp [here]
  · simp [here]

/-- The claim of a new loop does not depend on the stage of another one. -/
theorem AlikeBut.claimLoop {i : Nat} {r t : Reconciler} (h : AlikeBut i r t) (canRun : Bool) :
    AlikeBut i (r.claimLoop canRun) (t.claimLoop canRun) := by
  have settings : r.settings = t.settings := (congrArg Reconciler.settings h :)
  have wording : r.wording = t.wording := (congrArg Reconciler.wording h :)
  have state : r.state = t.state := (congrArg Reconciler.state h :)
  have started : r.started = t.started := (congrArg Reconciler.started h :)
  have loops : (r.setStage i .finished).loops = (t.setStage i .finished).loops :=
    (congrArg Reconciler.loops h :)
  rcases r.claimLoop_cases canRun with ⟨background, looping, runs, claimed⟩ | ⟨taken, same⟩
  · rcases t.claimLoop_cases canRun with ⟨-, -, -, claimed'⟩ | ⟨taken, -⟩
    · rw [claimed, claimed']
      simp only [AlikeBut, silent, setStage, modifyLoop, List.map_append, Reconciler.mk.injEq,
        settings, wording, state, started, true_and, and_true]
      exact congrArg (· ++ _) loops
    · rw [← settings, ← state] at taken
      exact absurd ⟨background, looping, runs⟩ taken
  · rcases t.claimLoop_cases canRun with ⟨background, looping, runs, -⟩ | ⟨-, same'⟩
    · rw [settings, state] at taken
      exact absurd ⟨background, looping, runs⟩ taken
    · rw [same, same']
      exact h

theorem AlikeBut.change {i : Nat} {r t : Reconciler} (h : AlikeBut i r t) (canRun : Bool)
    (c : Change) : AlikeBut i (r.change canRun c) (t.change canRun c) := by
  have state : r.state = t.state := (congrArg Reconciler.state h :)
  -- The two states are equal, so the change is made of both or of none.
  by_cases made : (r.state.change c).2 = .changed
  · rw [change_of_changed made, change_of_changed (state ▸ made)]
    refine AlikeBut.claimLoop ?_ canRun
    simp only [AlikeBut, silent, setStage, modifyLoop, Reconciler.mk.injEq] at h ⊢
    exact ⟨h.1, h.2.1, by rw [state], h.2.2.2⟩
  · have same := silent_change_of_not_changed made canRun
    have same' := silent_change_of_not_changed (state ▸ made) canRun
    exact ((alikeBut_of_silent same).trans h).trans (alikeBut_of_silent same').symm

/-! ## Changes while a request is under way -/

/-- What becomes of a reconciler when a step of the driver fails: a loop gives up its claim and is
finished. -/
def Driver.leave (d : Driver) (r : Reconciler) : Reconciler :=
  match d with
  | .hand _ => r
  | .loop id => r.releaseLoop.setStage id .finished

namespace Scene

/-- Several changes are made, each where loops can run or cannot. -/
def meanwhile (s : Scene) (cs : List (Bool × Change)) : Scene :=
  s.run (cs.map fun (canRun, c) => .change canRun c)

theorem meanwhile_cons (s : Scene) (canRun : Bool) (c : Change) (cs : List (Bool × Change)) :
    s.meanwhile ((canRun, c) :: cs) = (s.next (.change canRun c)).meanwhile cs := rfl

theorem underway_meanwhile (s : Scene) (cs : List (Bool × Change)) (d : Driver) :
    (s.meanwhile cs).underway d = s.underway d := by
  induction cs generalizing s with
  | nil => rfl
  | cons c rest ih => rw [meanwhile_cons, ih, underway_change]

theorem silent_meanwhile_congr {s t : Scene} (same : s.sync.silent = t.sync.silent)
    (cs : List (Bool × Change)) : (s.meanwhile cs).sync.silent = (t.meanwhile cs).sync.silent := by
  induction cs generalizing s t with
  | nil => exact same
  | cons c rest ih => exact ih (silent_change_congr same c.1 c.2)

theorem alikeBut_meanwhile {i : Nat} {s t : Scene} (h : AlikeBut i s.sync t.sync)
    (cs : List (Bool × Change)) : AlikeBut i (s.meanwhile cs).sync (t.meanwhile cs).sync := by
  induction cs generalizing s t with
  | nil => exact h
  | cons c rest ih => exact ih (h.change c.1 c.2)

/-! ## Refused answers -/

/-- A step fails exactly if its answer is refused. -/
theorem conclude_failed_iff {r : Reconciler} {plan : Plan} {answer : Answer} {canRun : Bool}
    {heard : List Change} :
    (∃ step, (r.conclude plan answer canRun heard).2 = .failed step) ↔ plan.Refuses answer := by
  rw [← Plan.read_eq_error_iff]
  cases outcome : plan.read answer with
  | error failure =>
    exact ⟨fun _ => ⟨failure, rfl⟩, fun _ => ⟨_, (conclude_of_error outcome r canRun heard).2⟩⟩
  | ok u =>
    have completed := (conclude_of_ok outcome r canRun heard).2
    refine ⟨fun ⟨step, failed⟩ => ?_, nofun⟩
    exact nomatch completed.symm.trans failed

/-- Nobody is told of loaded groups when a step fails. -/
theorem finish_of_error {plan : Plan} {answer : Answer} {failure : Failure}
    (h : plan.read answer = .error failure) (r : Reconciler) :
    (r.finish plan answer).2 = (.failed plan.step, false) := by
  simp only [finish, h]

/-- What a refused answer makes of a scene in which its request is under way. -/
theorem next_of_refused {s : Scene} {d : Driver} {plan : Plan} {answer : Answer}
    (waiting : s.underway d = some plan) (refused : plan.Refuses answer) (canRun : Bool)
    (heard : List Change) :
    (s.next (.answer d answer canRun heard)).sync.silent = (d.leave s.sync).silent := by
  obtain ⟨failure, h⟩ := Plan.read_eq_error_iff.2 refused
  obtain ⟨same, outcome⟩ := conclude_of_error h s.sync canRun heard
  cases d with
  | hand n =>
    rw [next_answer_hand s waiting]
    exact same
  | loop id =>
    obtain ⟨l, found, -, advanced⟩ := next_answer_loop s waiting answer canRun heard
    rw [advanced, outcome, silent_advanceLoop_failed found]
    obtain ⟨log, journal, taken⟩ := eq_with_of_silent same
    rw [taken]
    rfl

/-- Beginning a step changes nothing but the stage of the loop that makes it. -/
theorem go_of_begun {s : Scene} {d : Driver} {plan : Plan} (idle : s.underway d = none)
    (begun : (s.next (.go d)).underway d = some plan) :
    s.state.plan s.sync.settings = some plan ∧
      match d with
      | .hand _ => (s.next (.go d)).sync.silent = s.sync.silent
      | .loop id =>
        (s.next (.go d)).sync.silent = (s.sync.setStage id (.awaiting plan)).silent := by
  cases d with
  | hand n =>
    rcases s.next_go_hand n with ⟨same, -⟩ | ⟨plan', -, planned, going⟩
    · rw [same, idle] at begun
      cases begun
    · rw [going, underway_setHand, if_pos rfl] at begun
      cases begun
      exact ⟨planned, by rw [going]; exact silent_announce s.sync plan⟩
  | loop id =>
    have woken : (s.next (.go (.loop id))).sync = (s.sync.wakeLoop id).1 := rfl
    simp only [woken]
    have begun' : (s.sync.wakeLoop id).1.awaited id = some plan := begun
    have idle' : s.sync.awaited id = none := idle
    rcases s.sync.wakeLoop_cases id with
      ⟨same, -⟩ | ⟨l, -, -, same⟩ | ⟨l, found, -, ⟨-, same⟩ | ⟨plan', planned, same⟩⟩
    · rw [same, idle'] at begun'
      cases begun'
    · rw [awaited_of_silent same, awaited_setStage_of_none _ _ _ rfl, if_pos rfl] at begun'
      cases begun'
    · rw [awaited_of_silent same, awaited_setStage_of_none _ _ _ rfl, if_pos rfl] at begun'
      cases begun'
    · rw [awaited_of_silent same, awaited_setStage, if_pos rfl, found] at begun'
      cases begun'
      exact ⟨planned, same⟩

theorem silent_leave_congr {i : Nat} {r t : Reconciler} (h : AlikeBut i r t) :
    ((Driver.loop i).leave r).silent = ((Driver.loop i).leave t).silent :=
  congrArg Reconciler.releaseLoop h

/-- A step that fails leaves the reconciler as the changes made meanwhile would have left it. -/
theorem silent_of_refused {s : Scene} {d : Driver} {plan : Plan} {answer : Answer}
    (idle : s.underway d = none) (begun : (s.next (.go d)).underway d = some plan)
    (refused : plan.Refuses answer) (cs : List (Bool × Change)) (canRun : Bool)
    (heard : List Change) :
    (((s.next (.go d)).meanwhile cs).next (.answer d answer canRun heard)).sync.silent =
      (d.leave (s.meanwhile cs).sync).silent := by
  have waiting : ((s.next (.go d)).meanwhile cs).underway d = some plan := by
    rw [underway_meanwhile, begun]
  rw [next_of_refused waiting refused]
  have going := (go_of_begun idle begun).2
  cases d with
  | hand n => exact silent_meanwhile_congr going cs
  | loop id =>
    -- The loop stood at another stage meanwhile, which no change looks at.
    refine silent_leave_congr (alikeBut_meanwhile ?_ cs)
    exact (alikeBut_of_silent going).trans (alikeBut_setStage s.sync id (.awaiting plan))

/-- Whoever made a step that is over waits for nothing. -/
theorem hands_of_answered {s : Scene} {d : Driver} (idle : s.underway d = none)
    (cs : List (Bool × Change)) (answer : Answer) (canRun : Bool) (heard : List Change) :
    (((s.next (.go d)).meanwhile cs).next (.answer d answer canRun heard)).hands = s.hands := by
  funext m
  refine (underway_answer _ d (.hand m) answer canRun heard).trans ?_
  by_cases here : Driver.hand m = d
  · rw [if_pos here, ← idle, ← here]
    rfl
  · rw [if_neg here, underway_meanwhile, underway_go_of_ne s here]
    rfl

/-- A failed step changes nothing. In every state, whoever makes the step, and whatever changes are
made while its request is under way: it fails exactly if the answer is refused, and then nobody is
told of loaded groups, and everything but the log and the journal is as the changes alone would have
left it; a loop that made the step gives up its claim and is finished. Without changes the same
request is planned again. -/
theorem failed_step_changes_nothing (s : Scene) (d : Driver) (plan : Plan)
    (idle : s.underway d = none) (begun : (s.next (.go d)).underway d = some plan)
    (cs : List (Bool × Change)) (answer : Answer) (canRun : Bool) (heard : List Change) :
    let during := (s.next (.go d)).meanwhile cs
    let after := during.next (.answer d answer canRun heard)
    ((∃ step, (during.sync.conclude plan answer canRun heard).2 = .failed step) ↔
      plan.Refuses answer) ∧
    (plan.Refuses answer →
      ((during.sync.receive plan.request answer).finish plan answer).2 =
        (.failed plan.step, false) ∧
      (∃ log journal, after.sync = { d.leave (s.meanwhile cs).sync with log, journal }) ∧
      after.hands = s.hands ∧
      (cs = [] → after.state.plan after.sync.settings = some plan)) := by
  intro during after
  refine ⟨conclude_failed_iff, ?_⟩
  intro refused
  have same : after.sync.silent = (d.leave (s.meanwhile cs).sync).silent :=
    silent_of_refused idle begun refused cs canRun heard
  refine ⟨?_, eq_with_of_silent same, hands_of_answered idle cs answer canRun heard, ?_⟩
  · obtain ⟨failure, h⟩ := Plan.read_eq_error_iff.2 refused
    exact finish_of_error h _
  · rintro rfl
    have planned := (go_of_begun idle begun).1
    rw [state, state_of_silent same, settings_of_silent same]
    cases d with
    | hand n => exact planned
    | loop id => exact planned

/-- A loop is answered with a light that does not decode, after all lights were asked to go off. -/
theorem failed_step_changes_nothing_of_bad_record :
    let wording : Wording := fun _ _ =>
      "Error(\"invalid type: null, expected struct LightRecord\", line: 0, column: 0)"
    let s := (new .default wording).run [.change true .runLoop, .go (.loop 0)]
    let cs := [(true, Change.requestAllOff none)]
    let bad : Answer := .ok ⟨200, .obj [("1", .null)]⟩
    let after := ((s.next (.go (.loop 0))).meanwhile cs).next (.answer (.loop 0) bad true [])
    Plan.loadLights.Refuses bad ∧
      ∃ log journal, after.sync =
        { (Driver.loop 0).leave (s.meanwhile cs).sync with log, journal } := by
  intro wording s cs bad after
  have refused : Plan.loadLights.Refuses bad := .lights (.inr ⟨_, "1", .null, rfl, rfl, rfl⟩)
  have all := failed_step_changes_nothing s (.loop 0) .loadLights rfl rfl cs bad true []
  exact ⟨refused, (all.2 refused).2.1⟩

end Scene

end LightSync.Reconciler
