import LightSync.Proofs.Drains
import LightSync.Proofs.EchoingHub
import LightSync.Proofs.LoopStages
import LightSync.Proofs.Moves

/-!
# Loops agree with steps made by hand

A loop that nobody disturbs makes the steps that would be made by hand, up to its own limit. Who
makes a step shows in the claim, in the loops and in what is reported, and no plan, no update and no
listener looks at these. So loops that are started one after the other, each where the one before
made as many steps as it may, do what a drain does.

## Main definitions

- `Environment.runLoop`, `Environment.relay`: a loop, and loops one after the other
- `Surroundings`, `Bench`: a reconciler that nobody disturbs
- `Bench.Alike`: the same but for who makes the steps
-/

namespace LightSync

/-- What settings say about steps, whoever makes them. -/
def SyncSettings.ofSteps (s : SyncSettings) : SyncSettings :=
  { s with settleDelayMs := 0, stepIntervalMs := 0, maxSteps := 0, background := false }

namespace Reconciler

open Bridge

/-! ## Loops in an environment -/

namespace Environment

variable {ε : Type} [Environment ε]

/-- Has the request of a loop answered. The loop takes in the answer and goes on. -/
def answerLoop (e : ε) (id : Nat) (r : Request) : ε × Wait :=
  let (e, answer) := request e r
  match (sync e).awaited id with
  | none => (e, .nothing)
  | some plan =>
    let (e, outcome) := finishStep e plan answer
    let (r, wait) := (sync e).advanceLoop id outcome
    (withSync e r, wait)

/-- Lets a loop wait and go on, at most `fuel` times. -/
def followLoop (e : ε) (id : Nat) (wait : Wait) : Nat → ε
  | 0 => e
  | fuel + 1 =>
    match wait with
    | .nothing => e
    | .pause ms =>
      let e := pause e ms
      let (r, wait) := (sync e).wakeLoop id
      followLoop (withSync e r) id wait fuel
    | .answer request =>
      let (e, wait) := answerLoop e id request
      followLoop e id wait fuel

/-- How many steps a loop may make: at least one. -/
def loopLimit (e : ε) : Nat := max 1 (sync e).settings.maxSteps

/-- Starts a loop and lets it run. Gives the number of steps that it completed. -/
def runLoop (e : ε) : ε × Nat :=
  let id := (sync e).started
  let e := onSync e (·.change true .runLoop)
  let (r, wait) := (sync e).wakeLoop id
  -- The loop settles, and then makes a request and rests for every step.
  let e := followLoop (withSync e r) id wait (2 * loopLimit e + 1)
  (e, (((sync e).loop? id).map (·.completed)).getD 0)

/-- Runs at most `loops` loops, each because the one before made as many steps as it may. Says
whether the last one ended for another reason. -/
def relay (e : ε) : Nat → ε × Bool
  | 0 => (e, false)
  | loops + 1 =>
    let (after, completed) := runLoop e
    if loopLimit e ≤ completed then relay after loops else (after, true)

end Environment

/-! ## What does not depend on who makes a step -/

namespace State

variable {s t : State} {a b : SyncSettings}

theorem plan_congr (state : s.unclaimed = t.unclaimed) (settings : a.ofSteps = b.ofSteps) :
    s.plan a = t.plan b := by
  have own (s : State) (a : SyncSettings) : s.plan a = s.unclaimed.plan a.ofSteps := rfl
  rw [own, state, settings, ← own]

theorem update_congr (state : s.unclaimed = t.unclaimed) (settings : a.ofSteps = b.ofSteps)
    (u : Update) : (s.update a u).unclaimed = (t.update b u).unclaimed := by
  have own (s : State) (a : SyncSettings) : s.update a u = s.update a.ofSteps u := by
    cases u <;> rfl
  rw [update_unclaimed, own, state, settings, ← own, ← update_unclaimed]

theorem take_congr (state : s.unclaimed = t.unclaimed) (settings : a.ofSteps = b.ofSteps)
    (plan : Plan) (answer : Answer) (heard : List Change) :
    (s.take a plan answer heard).unclaimed = (t.take b plan answer heard).unclaimed := by
  unfold take
  cases plan.read answer with
  | error failure => exact state
  | ok u =>
    have updated := update_congr state settings u
    simp only [isReady_congr updated]
    split
    · exact changes_congr updated heard
    · exact updated

end State

/-- How a step ends is decided by the answer alone. -/
theorem outcome_conclude_congr (r t : Reconciler) (plan : Plan) (answer : Answer) (canRun : Bool)
    (heard : List Change) :
    (r.conclude plan answer canRun heard).2 = (t.conclude plan answer canRun heard).2 := by
  cases read : plan.read answer with
  | error failure => rw [(conclude_of_error read r ..).2, (conclude_of_error read t ..).2]
  | ok u => rw [(conclude_of_ok read r ..).2, (conclude_of_ok read t ..).2]

/-! ## Reconcilers that nobody disturbs -/

/-- A bridge whose answers depend on the requests so far, and a listener who makes some changes when
the managed groups were loaded. The listener does not see whether a loop runs. -/
structure Surroundings (β : Type) where
  answer : β → Request → β × Answer
  heard : β → State → β × List Change

/-- A reconciler in its surroundings, with nothing else around. -/
structure Bench {β : Type} (around : Surroundings β) where
  sync : Reconciler
  memory : β
  /-- The requests so far, oldest first. -/
  sent : List Request

namespace Bench

open Environment (serve step step_of_plan step_of_plan_none stepped stepped_add Lasts
  busy_of_endless runLoop relay loopLimit followLoop answerLoop drain drainUpTo drainLimit
  drainUpTo_of_idle drainUpTo_of_failed drainUpTo_of_completed drainUpTo_of_endless
  drainUpTo_cases)

variable {β : Type} {around : Surroundings β}

instance : Environment (Bench around) where
  sync b := b.sync
  withSync b sync := { b with sync }
  exchange b request :=
    let (memory, answer) := around.answer b.memory request
    ({ b with memory, sent := b.sent ++ [request] }, answer)
  pause b _ := b
  interleave b := b
  ready b :=
    let (memory, changes) := around.heard b.memory b.sync.state.unclaimed
    { b with memory, sync := b.sync.changeAll true changes }

abbrev state (b : Bench around) : State := b.sync.state

/-- The same reconciler, with settings by which no change starts a loop. -/
def manual (b : Bench around) : Bench around :=
  { b with sync := { b.sync with settings := { b.sync.settings with background := false } } }

def withMaxSteps (b : Bench around) (maxSteps : Nat) : Bench around :=
  { b with sync := { b.sync with settings := { b.sync.settings with maxSteps } } }

/-- Nothing differs but who makes the steps, when, and what is reported. -/
structure Alike (b t : Bench around) : Prop where
  state : b.state.unclaimed = t.state.unclaimed
  settings : b.sync.settings.ofSteps = t.sync.settings.ofSteps
  memory : b.memory = t.memory
  sent : b.sent = t.sent

theorem Alike.trans {a b c : Bench around} (first : a.Alike b) (second : b.Alike c) : a.Alike c :=
  ⟨first.state.trans second.state, first.settings.trans second.settings,
    first.memory.trans second.memory, first.sent.trans second.sent⟩

theorem Alike.symm {b t : Bench around} (h : b.Alike t) : t.Alike b :=
  ⟨h.state.symm, h.settings.symm, h.memory.symm, h.sent.symm⟩

theorem alike_manual (b : Bench around) : b.Alike b.manual := ⟨rfl, rfl, rfl, rfl⟩

/-- What the listener makes of the end of a step. -/
def told (b : Bench around) (plan : Plan) : β × List Change :=
  let answered := around.answer b.memory plan.request
  let finished := (b.sync.receive plan.request answered.2).finish plan answered.2
  if finished.2.2 then around.heard answered.1 finished.1.state.unclaimed else (answered.1, [])

/-- To have a request answered is to conclude its step, with the changes of the listener. -/
theorem serve_eq (b : Bench around) (plan : Plan) :
    let taken := b.sync.conclude plan (around.answer b.memory plan.request).2 true (b.told plan).2
    serve b plan = (⟨taken.1, (b.told plan).1, b.sent ++ [plan.request]⟩, taken.2) := by
  let answered := around.answer b.memory plan.request
  let finished := (b.sync.receive plan.request answered.2).finish plan answered.2
  let done : Bench around := ⟨finished.1, answered.1, b.sent ++ [plan.request]⟩
  have served : serve b plan =
      (if finished.2.2 then Environment.ready done else done, finished.2.1) := rfl
  have concluded (heard : List Change) : b.sync.conclude plan answered.2 true heard =
      (if finished.2.2 then finished.1.changeAll true heard else finished.1, finished.2.1) := rfl
  have told : b.told plan =
      if finished.2.2 then around.heard answered.1 finished.1.state.unclaimed
      else (answered.1, []) := rfl
  rw [served, concluded, told]
  by_cases loaded : finished.2.2 = true
  · simp only [if_pos loaded]
    rfl
  · simp only [if_neg loaded]
    rfl

theorem serve_outcome (b : Bench around) (plan : Plan) : (serve b plan).2.IsOf plan.step := by
  rw [serve_eq]
  exact conclude_outcome b.sync plan _ true (b.told plan).2

/-- Alike reconcilers hear the same answer, and their listeners do the same. -/
theorem told_congr {b t : Bench around} (h : b.Alike t) (plan : Plan) :
    b.told plan = t.told plan := by
  unfold told
  rw [h.memory]
  cases read : plan.read (around.answer t.memory plan.request).2 with
  | error failure => simp only [finish, read, Bool.false_eq_true, if_false]
  | ok u =>
    have updated := State.update_congr h.state h.settings u
    obtain ⟨_, _, finished⟩ := finish_of_ok read b.sync
    obtain ⟨_, _, finished'⟩ := finish_of_ok read t.sync
    simp only [finished, finished', updated, State.isReady_congr updated]

theorem alike_serve {b t : Bench around} (h : b.Alike t) (plan : Plan) :
    (serve b plan).1.Alike (serve t plan).1 ∧ (serve b plan).2 = (serve t plan).2 := by
  rw [serve_eq, serve_eq, told_congr h plan, h.memory]
  refine ⟨⟨?_, ?_, rfl, congrArg (· ++ _) h.sent⟩, ?_⟩
  · rw [state, unclaimed_conclude, state, unclaimed_conclude]
    exact State.take_congr h.state h.settings ..
  · rw [settings_conclude, settings_conclude]
    exact h.settings
  · exact outcome_conclude_congr b.sync t.sync plan _ true (t.told plan).2

/-! ## Steps by hand -/

/-- A step makes one request, unless there is nothing to do. -/
theorem length_sent_step (b : Bench around) (busy : (step b).2 ≠ .idle) :
    (step b).1.sent.length = b.sent.length + 1 := by
  cases planned : b.state.plan b.sync.settings with
  | none =>
    rw [step_of_plan_none planned] at busy
    exact absurd rfl busy
  | some plan =>
    rw [step_of_plan planned, serve_eq]
    exact List.length_append

theorem length_sent_stepped {b : Bench around} {k : Nat}
    (busy : ∀ j < k, (step (stepped b j)).2 ≠ .idle) :
    (stepped b k).sent.length = b.sent.length + k := by
  induction k generalizing b with
  | zero => rfl
  | succ k ih =>
    have rest := ih (b := (step b).1) fun j few => busy (j + 1) (Nat.succ_lt_succ few)
    rw [stepped, rest, length_sent_step b (busy 0 (Nat.succ_pos k))]
    omega

theorem step_of_idle (b : Bench around) (idle : (step b).2 = .idle) : step b = (b, .idle) := by
  cases planned : b.state.plan b.sync.settings with
  | none => exact step_of_plan_none planned
  | some plan =>
    rw [step_of_plan planned] at idle
    rcases serve_outcome { b with sync := b.sync.announce plan } plan with made | made
    · exact nomatch idle.symm.trans made
    · exact nomatch idle.symm.trans made

/-! ## Loops -/

section Loop

variable {b t : Bench around} {id completed : Nat} {stage : Stage} {plan : Plan}

/-- The same reconciler after its loop went on. -/
abbrev withSync (b : Bench around) (sync : Reconciler) : Bench around := { b with sync }

theorem loopLimit_eq (b : Bench around) :
    loopLimit b = max 1 b.sync.settings.maxSteps := rfl

theorem followLoop_nothing (b : Bench around) (id fuel : Nat) :
    followLoop b id .nothing fuel = b := by
  cases fuel <;> rfl

theorem alike_withSync {r : Reconciler} (state : r.state.unclaimed = b.state.unclaimed)
    (settings : r.settings = b.sync.settings) : (b.withSync r).Alike b :=
  ⟨state, congrArg _ settings, rfl, rfl⟩

theorem answerLoop_eq (h : LoopAt b.sync id completed (.awaiting plan)) :
    let served := serve b plan
    let advanced := served.1.sync.advanceLoop id served.2
    answerLoop b id plan.request = (served.1.withSync advanced.1, advanced.2) := by
  let answer := (around.answer b.memory plan.request).2
  have waiting : (b.sync.receive plan.request answer).awaited id = some plan :=
    (awaited_of_silent (silent_receive ..) id).trans h.awaited
  have heard : (Environment.sync (Environment.request b plan.request).1).awaited id = some plan :=
    waiting
  simp only [answerLoop, heard]
  rfl

/-- Whatever a loop is told by an answer, it stands where it stood. -/
theorem loopAt_serve (h : LoopAt b.sync id completed stage) (running : stage ≠ .finished)
    (plan : Plan) : LoopAt (serve b plan).1.sync id completed stage := by
  rw [serve_eq]
  exact h.conclude running plan _ true (b.told plan).2

theorem settings_serve (b : Bench around) (plan : Plan) :
    (serve b plan).1.sync.settings = b.sync.settings := by
  rw [serve_eq]
  exact settings_conclude b.sync plan _ true (b.told plan).2

/-- A loop between two steps that finds nothing to do agrees with a step by hand. -/
theorem wake_of_idle (h : LoopAt b.sync id completed stage) (between : stage.IsBetween)
    (alike : b.Alike t) (idle : b.state.plan b.sync.settings = none) :
    let woken := b.sync.wakeLoop id
    step t = (t, .idle) ∧ woken.2 = .nothing ∧ (b.withSync woken.1).Alike t ∧
      Ended woken.1 id completed := by
  intro woken
  obtain ⟨wait, ended⟩ := h.wakeLoop_of_idle between idle
  have moved : (b.withSync woken.1).Alike b :=
    alike_withSync (unclaimed_wakeLoop b.sync id) (settings_wakeLoop b.sync id)
  have idle' := (State.plan_congr alike.state alike.settings).symm.trans idle
  exact ⟨step_of_plan_none idle', wait, moved.trans alike, ended⟩

/-- A loop between two steps that finds something to do agrees with a step by hand: it is told the
same, before it rests or ends. -/
theorem wake_of_planned (h : LoopAt b.sync id completed stage) (between : stage.IsBetween)
    (alike : b.Alike t) (planned : b.state.plan b.sync.settings = some plan) :
    let woken := b.sync.wakeLoop id
    woken.2 = .answer plan.request ∧
      ∃ (served t' : Bench around) (outcome : Outcome),
        step t = (t', outcome) ∧ outcome.IsOf plan.step ∧
        served.Alike t' ∧ served.sync.settings = b.sync.settings ∧
        LoopAt served.sync id completed (.awaiting plan) ∧
        answerLoop (b.withSync woken.1) id plan.request =
          (served.withSync (served.sync.advanceLoop id outcome).1,
            (served.sync.advanceLoop id outcome).2) := by
  intro woken
  obtain ⟨wait, waiting⟩ := h.wakeLoop_of_planned between planned
  have settings := settings_wakeLoop b.sync id
  have moved : (b.withSync woken.1).Alike b :=
    alike_withSync (unclaimed_wakeLoop b.sync id) settings
  let announced := t.withSync (t.sync.announce plan)
  have silent := silent_announce t.sync plan
  have same : announced.Alike t :=
    alike_withSync (congrArg State.unclaimed (state_of_silent silent)) (settings_of_silent silent)
  obtain ⟨served, outcome⟩ := alike_serve ((moved.trans alike).trans same.symm) plan
  have planned' := (State.plan_congr alike.state alike.settings).symm.trans planned
  have made : step t =
      ((serve announced plan).1, (serve (b.withSync woken.1) plan).2) := by
    rw [outcome]
    exact step_of_plan planned'
  refine ⟨wait, _, _, _, made, serve_outcome _ plan, served, ?_, ?_, answerLoop_eq waiting⟩
  · exact (settings_serve _ plan).trans settings
  · have running : Stage.awaiting plan ≠ .finished := nofun
    exact loopAt_serve (b := b.withSync woken.1) waiting running plan

/-- What is left of a loop between two steps does what a drain of as many steps does. -/
theorem followLoop_of_between {rest : Nat} (h : LoopAt b.sync id completed stage)
    (between : stage.IsBetween) (alike : b.Alike t)
    (left : completed + rest + 1 = loopLimit b) {fuel : Nat}
    (enough : 2 * rest + 1 ≤ fuel) :
    let woken := b.sync.wakeLoop id
    let after := followLoop (b.withSync woken.1) id woken.2 fuel
    let drained := drainUpTo t (rest + 1)
    after.Alike drained.1 ∧ Ended after.sync id (completed + completedOf drained.2) ∧
      after.sync.settings = b.sync.settings := by
  induction rest using Nat.strongRecOn generalizing b t completed stage fuel with
  | _ rest ih =>
    obtain ⟨fuel, rfl⟩ : ∃ f, fuel = f + 1 := ⟨fuel - 1, by omega⟩
    cases planned : b.state.plan b.sync.settings with
    | none =>
      obtain ⟨made, wait, same, ended⟩ := wake_of_idle h between alike planned
      simp only [wait, followLoop_nothing, drainUpTo_of_idle made]
      exact ⟨same, ended, settings_wakeLoop b.sync id⟩
    | some plan =>
      obtain ⟨wait, served, t', outcome, made, ends, same, settings, there, answered⟩ :=
        wake_of_planned h between alike planned
      have advanced : (served.withSync (served.sync.advanceLoop id outcome).1).Alike t' :=
        (alike_withSync (unclaimed_advanceLoop there.found ends)
          (settings_advanceLoop there.found ends)).trans same
      have kept := (settings_advanceLoop there.found ends).trans settings
      simp only [wait, followLoop, answered]
      rcases ends with rfl | rfl
      · obtain ⟨wait, ended⟩ := there.advanceLoop_of_failed nofun plan.step
        simp only [wait, followLoop_nothing, drainUpTo_of_failed made]
        exact ⟨advanced, ended, kept⟩
      · simp only [drainUpTo_of_completed made, completedOf_cons]
        have limit : served.sync.settings.maxSteps = b.sync.settings.maxSteps := by rw [settings]
        rw [loopLimit_eq] at left
        by_cases last : served.sync.settings.maxSteps ≤ completed + 1
        · obtain ⟨wait, ended⟩ := there.advanceLoop_of_last nofun plan.step last
          obtain rfl : rest = 0 := by omega
          simp only [wait, followLoop_nothing]
          exact ⟨advanced, ended, kept⟩
        · obtain ⟨wait, resting⟩ := there.advanceLoop_of_completed nofun plan.step last
          obtain ⟨rest, rfl⟩ : ∃ n, rest = n + 1 := ⟨rest - 1, by omega⟩
          obtain ⟨fuel, rfl⟩ : ∃ f, fuel = f + 1 := ⟨fuel - 1, by omega⟩
          have left' : completed + 1 + rest + 1 = loopLimit
              (served.withSync (served.sync.advanceLoop id (.completed plan.step)).1) := by
            rw [loopLimit_eq, kept]
            omega
          have enough' : 2 * rest + 1 ≤ fuel := by omega
          obtain ⟨same, ended, still⟩ :=
            ih rest (Nat.lt_succ_self rest) resting (.inr rfl) advanced left' enough'
          rw [wait]
          rw [Nat.add_assoc, Nat.add_comm 1] at ended
          exact ⟨same, ended, still.trans kept⟩

/-- A loop that is started while none runs does what a drain of as many steps does. -/
theorem runLoop_eq_drain (free : Claimed b.sync) (idle : b.state.looping = false)
    (background : b.sync.settings.background = true) (alike : b.Alike t) :
    (runLoop b).1.Alike (drainUpTo t (loopLimit b)).1 ∧
      (runLoop b).2 =
        completedOf (drainUpTo t (loopLimit b)).2 ∧
      Ended (runLoop b).1.sync b.sync.started (runLoop b).2 ∧
      (runLoop b).1.sync.settings = b.sync.settings := by
  let id := b.sync.started
  let started := b.sync.change true .runLoop
  have settings : started.settings = b.sync.settings := settings_change ..
  have fresh : LoopAt started id 0 .fresh := free.loopAt_runLoop idle background
  obtain ⟨wait, settling⟩ := fresh.wakeLoop_of_fresh
  have settled : (started.wakeLoop id).1.settings = b.sync.settings :=
    (settings_wakeLoop started id).trans settings
  have same : (b.withSync (started.wakeLoop id).1).Alike t :=
    (alike_withSync ((unclaimed_wakeLoop started id).trans (unclaimed_change ..)) settled).trans
      alike
  have limit : 0 + (loopLimit b - 1) + 1 =
      loopLimit (b.withSync (started.wakeLoop id).1) := by
    rw [loopLimit_eq, loopLimit_eq, settled]
    omega
  have budget : 2 * (loopLimit b - 1) + 1 ≤
      2 * loopLimit (b.withSync started) := by
    rw [loopLimit_eq, loopLimit_eq, settings]
    omega
  obtain ⟨agrees, ended, kept⟩ := followLoop_of_between settling (.inl rfl) same limit budget
  have steps : loopLimit b - 1 + 1 = loopLimit b := by
    rw [loopLimit_eq]
    omega
  rw [steps] at agrees ended
  rw [Nat.zero_add] at ended
  have after : (runLoop b).1 = followLoop
      (b.withSync ((started.wakeLoop id).1.wakeLoop id).1) id
      ((started.wakeLoop id).1.wakeLoop id).2 (2 * loopLimit (b.withSync started)) := by
    have first : (runLoop b).1 = followLoop
        (b.withSync (started.wakeLoop id).1) id (started.wakeLoop id).2
        (2 * loopLimit (b.withSync started) + 1) := rfl
    rw [first, wait]
    rfl
  have count : (runLoop b).2 =
      (((runLoop b).1.sync.loop? id).map (·.completed)).getD 0 := rfl
  rw [after, ended.found, Option.map_some, Option.getD_some] at count
  rw [after, count]
  exact ⟨agrees, rfl, ended, kept.trans settled⟩

theorem relay_succ (b : Bench around) (loops : Nat) :
    relay b (loops + 1) =
      if loopLimit b ≤ (runLoop b).2 then
        relay (runLoop b).1 loops
      else ((runLoop b).1, true) := rfl

/-- Loops that are started one after the other make all the steps that there are. -/
theorem relay_of_lasts {n loops : Nat} (free : Claimed b.sync) (idle : b.state.looping = false)
    (background : b.sync.settings.background = true) (alike : b.Alike t)
    (lasts : Lasts t n) (enough : n < loops) :
    (relay b loops).1.Alike (stepped t n) ∧
      (relay b loops).2 = true := by
  induction loops generalizing b t n with
  | zero => exact absurd enough (Nat.not_lt_zero n)
  | succ loops ih =>
    obtain ⟨agrees, count, ended, settings⟩ := runLoop_eq_drain free idle background alike
    rw [relay_succ, count]
    rcases drainUpTo_cases step_of_idle lasts (loopLimit b) with
      ⟨fewer, all, made⟩ | ⟨many, few, made, more⟩
    · rw [if_neg (Nat.not_le.2 fewer), ← made]
      exact ⟨agrees, rfl⟩
    · -- Every loop makes at least one step, so there are fewer left for those to come.
      have positive : 0 < loopLimit b := by
        rw [loopLimit_eq]
        omega
      rw [if_pos (Nat.le_of_eq many.symm)]
      obtain ⟨agrees, last⟩ :=
        ih ended.claimed ended.free (settings ▸ background) agrees more (by omega)
      rw [made, ← stepped_add, Nat.add_sub_cancel' few] at agrees
      exact ⟨agrees, last⟩

end Loop

/-- A loop makes the first steps of those that there are to make by hand, as many as it may, and
leaves the same state. So loops that are started one after the other, for as long as each makes as
many steps as it may, do what a drain does that does not meet its own limit. A loop that may make no
step makes one. -/
theorem loop_makes_steps_of_drain (b : Bench around) (free : Claimed b.sync)
    (idle : b.state.looping = false) (background : b.sync.settings.background = true) :
    let limit := max 1 b.sync.settings.maxSteps
    let after := (runLoop b).1
    (∃ l, after.sync.loop? b.sync.started = some l ∧ l.stage = .finished) ∧
    after.state.looping = false ∧
    (∀ n, Lasts b.manual n →
      after.Alike (stepped b.manual (min n limit)) ∧
      after.sent.length = b.sent.length + min n limit) ∧
    ((∀ n, ¬ Lasts b.manual n) →
      after.Alike (stepped b.manual limit) ∧
      after.sent.length = b.sent.length + limit) ∧
    (∀ n, Lasts b.manual n → n ≤ drainLimit → ∀ loops, n < loops →
      (relay b loops).1.Alike (drain b.manual).1 ∧
      (relay b loops).2 = true) ∧
    (b.sync.settings.maxSteps = 0 → after.Alike (runLoop (b.withMaxSteps 1)).1) := by
  intro limit after
  obtain ⟨agrees, -, ended, -⟩ := runLoop_eq_drain free idle background b.alike_manual
  have reached {n : Nat} (lasts : Lasts b.manual n) (limit : Nat) :
      (drainUpTo b.manual limit).1 = stepped b.manual (min n limit) := by
    rcases drainUpTo_cases step_of_idle lasts limit with ⟨-, all, made⟩ | ⟨-, few, made, -⟩
    · rw [made, Nat.min_eq_left all]
    · rw [made, Nat.min_eq_right few]
  refine ⟨⟨_, ended.found, rfl⟩, ended.free, ?_, ?_, ?_, ?_⟩
  · intro n lasts
    have same : after.Alike (stepped b.manual (min n limit)) :=
      reached lasts limit ▸ agrees
    refine ⟨same, ?_⟩
    rw [same.sent]
    exact length_sent_stepped fun k few => lasts.busy (Nat.lt_of_lt_of_le few (Nat.min_le_left ..))
  · intro endless
    have same : after.Alike (stepped b.manual limit) :=
      drainUpTo_of_endless endless limit ▸ agrees
    refine ⟨same, ?_⟩
    rw [same.sent]
    exact length_sent_stepped fun k _ => busy_of_endless endless k
  · intro n lasts short loops enough
    obtain ⟨same, last⟩ := relay_of_lasts free idle background b.alike_manual lasts enough
    have drained : (drain b.manual).1 = stepped b.manual n :=
      (reached lasts _).trans (by rw [Nat.min_eq_left short])
    exact ⟨drained ▸ same, last⟩
  · intro none
    have one : (b.withMaxSteps 1).Alike b.manual := ⟨rfl, rfl, rfl, rfl⟩
    obtain ⟨agrees', -⟩ := runLoop_eq_drain (b := b.withMaxSteps 1)
      ⟨free.fresh, free.running, free.stopped⟩ idle background one
    have limits : loopLimit (b.withMaxSteps 1) = loopLimit b := by
      rw [loopLimit_eq, loopLimit_eq, none]
      rfl
    rw [limits] at agrees'
    exact agrees.trans agrees'.symm

/-- A bridge that stores what it is told, with one light, and a listener who wants it to be tracked
when the managed groups were loaded. -/
def sofa : Surroundings (Bool × (String → NameSet)) where
  answer := (Hub.echoing [("1", .obj [("name", .str "Sofa"), ("uniqueid", .str "one")])] [
    ("1", .obj [("name", .str "Auto Brightness")]),
    ("2", .obj [("name", .str "Auto Temperature")])]).take
  heard memory _ := (memory, [.addLights .brightness ["1"], .setBrightness 100])

/-- Two loops of two steps each, and one that finds nothing to do, do what a drain does. -/
theorem loop_makes_steps_of_drain_of_sofa :
    let b : Bench sofa := 
      ⟨.new { SyncSettings.default with maxSteps := 2 } .brief, (true, fun _ => ∅), []⟩
    Claimed b.sync ∧ b.state.looping = false ∧ b.sync.settings.background = true ∧
      Lasts b.manual 4 ∧
      (runLoop b).1.Alike (stepped b.manual 2) ∧
      (relay b 5).1.Alike (drain b.manual).1 := by
  intro b
  have free : Claimed b.sync := Scene.claimed_new _ _
  have lasts : Lasts b.manual 4 := by
    refine .completed (s := .loadLights) ?_ (.completed (s := .loadGroups) ?_
      (.completed (s := .updateGroupMembership) ?_ (.completed (s := .updateGroupValues) ?_
        (.idle ?_))))
    all_goals decide +kernel
  obtain ⟨-, -, finite, -, relayed, -⟩ := loop_makes_steps_of_drain b free rfl rfl
  exact ⟨free, rfl, rfl, lasts, (finite 4 lasts).1,
    (relayed 4 lasts (by decide) 5 (by decide)).1⟩

end Bench
end Reconciler
end LightSync
