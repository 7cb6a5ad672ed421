import LightSync.Proofs.Scene

/-!
# One loop at a time, and no lost wakeup

Where loops are wanted and can run, the claim stands for the one loop that is not finished. A change
that may have made work finds the claim taken or takes it. So work is left over only by a loop that
gave up its claim before its work was done, and nothing has changed since.

## Main definitions

- `Reconciler.Claimed`: the claim stands for the last loop, and all others are finished
- `State.Stirs`: a change may have made work
- `Scene.Quiet`: no loop runs, and an event makes no work
- `Scene.LeavesWork`: a loop gives up its claim without having found that nothing is left to do
-/

namespace LightSync.Reconciler

open Bridge

variable {r t : Reconciler} {i : Nat} {l : Loop}

/-- All loops are finished, except that the last one runs while there is a claim. -/
structure Claimed (r : Reconciler) : Prop where
  fresh : ∀ l ∈ r.loops, l.id < r.started
  running : r.state.looping = true → ∃ done l, r.loops = done ++ [l] ∧ l.stage ≠ .finished ∧
    ∀ m ∈ done, m.stage = .finished ∧ m.id ≠ l.id
  stopped : r.state.looping = false → ∀ l ∈ r.loops, l.stage = .finished

theorem Claimed.of_silent (h : Claimed r) (same : r.silent = t.silent) : Claimed t := by
  have loops := loops_of_silent same
  have state := state_of_silent same
  have started := started_of_silent same
  constructor
  · rw [← loops, ← started]
    exact h.fresh
  · rw [← loops, ← state]
    exact h.running
  · rw [← loops, ← state]
    exact h.stopped

/-- As many loops run as there are claims. -/
theorem Claimed.count (h : Claimed r) :
    (r.loops.filter fun l => l.stage ≠ .finished).length = if r.state.looping then 1 else 0 := by
  cases looping : r.state.looping with
  | false =>
    have none : (r.loops.filter fun l => l.stage ≠ .finished) = [] :=
      List.filter_eq_nil_iff.2 fun l mem => by simpa using h.stopped looping l mem
    rw [none]
    rfl
  | true =>
    obtain ⟨done, l, loops, running, finished⟩ := h.running looping
    have none : (done.filter fun l => l.stage ≠ .finished) = [] :=
      List.filter_eq_nil_iff.2 fun m mem => by simpa using (finished m mem).1
    rw [loops, List.filter_append, none]
    simp [running]

/-! ## Changes -/

theorem Claimed.claimLoop (h : Claimed r) (canRun : Bool) : Claimed (r.claimLoop canRun) := by
  rcases r.claimLoop_cases canRun with ⟨-, looping, -, claimed⟩ | ⟨-, same⟩
  · rw [claimed]
    constructor
    · intro l mem
      rcases List.mem_append.1 mem with old | new
      · exact Nat.lt_succ_of_lt (h.fresh l old)
      · cases List.mem_singleton.1 new
        exact Nat.lt_succ_self r.started
    · refine fun _ => ⟨r.loops, ⟨r.started, 0, .fresh⟩, rfl, nofun, fun m mem => ?_⟩
      exact ⟨h.stopped looping m mem, Nat.ne_of_lt (h.fresh m mem)⟩
    · exact nofun
  · rw [same]
    exact h

/-- A change of the state alone does not concern the loops. -/
theorem Claimed.withState (h : Claimed r) {state : State} (same : state.looping = r.state.looping) :
    Claimed { r with state } :=
  ⟨h.fresh, fun looping => h.running (same ▸ looping), fun looping => h.stopped (same ▸ looping)⟩

theorem Claimed.change (h : Claimed r) (canRun : Bool) (c : Change) :
    Claimed (r.change canRun c) := by
  by_cases made : (r.state.change c).2 = .changed
  · rw [change_of_changed made]
    exact (h.withState (r.state.looping_change c)).claimLoop canRun
  · exact h.of_silent (silent_change_of_not_changed made canRun).symm

theorem Claimed.changeAll (h : Claimed r) (canRun : Bool) (cs : List Change) :
    Claimed (r.changeAll canRun cs) := by
  induction cs generalizing r with
  | nil => exact h
  | cons c rest ih => exact ih (h.change canRun c)

theorem Claimed.conclude (h : Claimed r) (plan : Plan) (answer : Answer) (canRun : Bool)
    (heard : List Change) : Claimed (r.conclude plan answer canRun heard).1 := by
  cases outcome : plan.read answer with
  | error failure => exact h.of_silent (conclude_of_error outcome r canRun heard).1.symm
  | ok u =>
    refine Claimed.of_silent ?_ (conclude_of_ok outcome r canRun heard).1.symm
    have updated := h.withState (State.looping_update u : (r.state.update r.settings u).looping = _)
    split
    · exact updated.changeAll canRun heard
    · exact updated

/-! ## Loops that go on -/

/-- A loop that is not finished is the last one, and it holds the claim. -/
theorem Claimed.last (h : Claimed r) (found : r.loop? i = some l) (running : l.stage ≠ .finished) :
    r.state.looping = true ∧ ∃ done, r.loops = done ++ [l] ∧ l.id = i ∧
      ∀ m ∈ done, m.stage = .finished ∧ m.id ≠ i := by
  have mem : l ∈ r.loops := List.mem_of_find?_eq_some found
  have here : l.id = i := by simpa using List.find?_some found
  cases looping : r.state.looping with
  | false => exact absurd (h.stopped looping l mem) running
  | true =>
    obtain ⟨done, last, loops, -, finished⟩ := h.running looping
    rw [loops] at mem
    rcases List.mem_append.1 mem with old | new
    · exact absurd (finished l old).1 running
    · cases List.mem_singleton.1 new
      exact ⟨rfl, done, loops, here, fun m mem => here ▸ finished m mem⟩

/-- The running loop goes on, or it is finished and gives up its claim. -/
theorem Claimed.modifyLoop (h : Claimed r) (found : r.loop? i = some l)
    (running : l.stage ≠ .finished) {f : Loop → Loop} (kept : ∀ l, (f l).id = l.id) :
    ((f l).stage ≠ .finished → Claimed (r.modifyLoop i f)) ∧
      ((f l).stage = .finished → Claimed (r.releaseLoop.modifyLoop i f)) := by
  obtain ⟨looping, done, loops, here, finished⟩ := h.last found running
  -- The id is new to the loops before, so only the last one moves.
  have others : (done.map fun m => if m.id = i then f m else m) = done := by
    refine (List.map_congr_left fun m mem => ?_).trans (List.map_id done)
    exact if_neg (finished m mem).2
  have moved : (r.modifyLoop i f).loops = done ++ [f l] := by
    simp only [Reconciler.modifyLoop, loops, List.map_append, others, List.map_cons, List.map_nil,
      if_pos here]
  have old (m : Loop) (mem : m ∈ done) : m.id < r.started :=
    h.fresh m (by rw [loops]; exact List.mem_append_left _ mem)
  have fresh : ∀ m ∈ done ++ [f l], m.id < r.started := by
    intro m mem
    rcases List.mem_append.1 mem with before | last
    · exact old m before
    · cases List.mem_singleton.1 last
      rw [kept]
      exact h.fresh l (by rw [loops]; simp)
  constructor
  · intro goesOn
    refine ⟨by rw [moved]; exact fresh, ?_, fun no => by cases looping.symm.trans no⟩
    intro _
    exact ⟨done, f l, moved, goesOn, fun m mem => ⟨(finished m mem).1, by
      rw [kept, here]
      exact (finished m mem).2⟩⟩
  · intro ended
    have moved' : (r.releaseLoop.modifyLoop i f).loops = done ++ [f l] := moved
    refine ⟨by rw [moved']; exact fresh, fun claimed => absurd claimed Bool.false_ne_true, ?_⟩
    intro _ m mem
    rw [moved'] at mem
    rcases List.mem_append.1 mem with before | last
    · exact (finished m before).1
    · cases List.mem_singleton.1 last
      exact ended

theorem Claimed.setStage (h : Claimed r) (found : r.loop? i = some l)
    (running : l.stage ≠ .finished) (stage : Stage) :
    (stage ≠ .finished → Claimed (r.setStage i stage)) ∧
      (stage = .finished → Claimed (r.releaseLoop.setStage i stage)) := by
  have kept : ∀ l : Loop, ({ l with stage } : Loop).id = l.id := fun _ => rfl
  exact h.modifyLoop found running kept

theorem Claimed.wakeLoop (h : Claimed r) (i : Nat) : Claimed (r.wakeLoop i).1 := by
  rcases r.wakeLoop_cases i with
    ⟨same, -⟩ | ⟨l, found, stage, woken⟩ | ⟨l, found, between, ⟨-, woken⟩ | ⟨plan, -, woken⟩⟩
  · rw [same]
    exact h
  · have running : l.stage ≠ .finished := by rw [stage]; exact nofun
    exact ((h.setStage found running .settling).1 nofun).of_silent woken.symm
  · have running := between.running
    exact ((h.setStage found running .finished).2 rfl).of_silent woken.symm
  · have running := between.running
    exact ((h.setStage found running (.awaiting plan)).1 nofun).of_silent woken.symm

theorem Claimed.advanceLoop (h : Claimed r) (found : r.loop? i = some l)
    (running : l.stage ≠ .finished) {step : Step} {outcome : Outcome} (made : outcome.IsOf step) :
    Claimed (r.advanceLoop i outcome).1 := by
  rcases advanceLoop_cases found made with ⟨f, kept, advanced, -⟩ | ⟨f, kept, advanced⟩
  · have finished := (h.modifyLoop found running fun l => (kept l).1).2 (kept l).2
    exact finished.of_silent advanced.symm
  · have resting : (f l).stage ≠ .finished := by rw [(kept l).2]; exact nofun
    have goesOn := (h.modifyLoop found running fun l => (kept l).1).1 resting
    exact goesOn.of_silent advanced.symm

/-! ## Changes that make work -/

/-- A change may have made work: it is a request, or something is wanted that was not. -/
def State.Stirs (s : State) (c : Change) : Prop :=
  c = .runLoop ∨ c = .requestReload ∨ (∃ fade, c = .requestAllOff fade) ∨ (s.change c).1 ≠ s

theorem State.changed_of_stirs {s : State} {c : Change} (h : s.Stirs c) :
    (s.change c).2 = .changed := by
  rcases h with rfl | rfl | ⟨fade, rfl⟩ | different
  · rfl
  · rfl
  · rfl
  · rcases s.change_cases c with ⟨_, _, -, made⟩ | ⟨same, -⟩ | ⟨-, made, -⟩
    · rw [made]
    · exact absurd same different
    · exact made

theorem looping_claimLoop (background : r.settings.background = true) :
    (r.claimLoop true).state.looping = true := by
  rcases r.claimLoop_cases true with ⟨-, -, -, claimed⟩ | ⟨taken, same⟩
  · rw [claimed]
  · rw [same]
    cases looping : r.state.looping with
    | true => rfl
    | false => exact absurd ⟨background, looping, rfl⟩ taken

theorem looping_of_stirs (background : r.settings.background = true) {c : Change}
    (h : r.state.Stirs c) : (r.change true c).state.looping = true := by
  rw [change_of_changed (State.changed_of_stirs h)]
  exact looping_claimLoop background

/-- After a change there is a claim, or it did nothing at all. -/
theorem looping_change_or_silent (background : r.settings.background = true) (c : Change) :
    (r.change true c).state.looping = true ∨ (r.change true c).silent = r.silent := by
  by_cases made : (r.state.change c).2 = .changed
  · rw [change_of_changed made]
    exact .inl (looping_claimLoop background)
  · exact .inr (silent_change_of_not_changed made true)

/-- While there is a claim, changes neither give it up nor start a loop. -/
theorem loops_change (canRun : Bool) (c : Change) (h : r.state.looping = true) :
    (r.change canRun c).state.looping = true ∧ (r.change canRun c).loops = r.loops := by
  by_cases made : (r.state.change c).2 = .changed
  · have still : (r.state.change c).1.looping = true := (r.state.looping_change c).trans h
    rw [change_of_changed made]
    rcases claimLoop_cases { r with state := (r.state.change c).1 } canRun with
      ⟨-, free, -⟩ | ⟨-, same⟩
    · exact nomatch still.symm.trans free
    · rw [same]
      exact ⟨still, rfl⟩
  · have same := silent_change_of_not_changed made canRun
    exact ⟨by rw [state_of_silent same, h], loops_of_silent same⟩

theorem loops_changeAll (canRun : Bool) (cs : List Change) (h : r.state.looping = true) :
    (r.changeAll canRun cs).state.looping = true ∧ (r.changeAll canRun cs).loops = r.loops := by
  induction cs generalizing r with
  | nil => exact ⟨h, rfl⟩
  | cons c rest ih =>
    obtain ⟨claim, loops⟩ := loops_change canRun c h
    obtain ⟨claim', loops'⟩ := ih claim
    exact ⟨claim', loops'.trans loops⟩

theorem loops_conclude (plan : Plan) (answer : Answer) (canRun : Bool) (heard : List Change)
    (h : r.state.looping = true) :
    (r.conclude plan answer canRun heard).1.state.looping = true ∧
      (r.conclude plan answer canRun heard).1.loops = r.loops := by
  cases outcome : plan.read answer with
  | error failure =>
    have same := (conclude_of_error outcome r canRun heard).1
    exact ⟨by rw [state_of_silent same, h], loops_of_silent same⟩
  | ok u =>
    have same := (conclude_of_ok outcome r canRun heard).1
    have updated : (r.state.update r.settings u).looping = true :=
      (State.looping_update u).trans h
    rw [state_of_silent same, loops_of_silent same]
    split
    · exact loops_changeAll canRun heard updated
    · exact ⟨updated, rfl⟩

namespace Scene

/-! ## Runs driven by loops -/

/-- Only loops make steps, and loops can run wherever a change is made. -/
def ByLoops (_ : Scene) : Event → Prop
  | .change canRun _ => canRun = true
  | .go d => ∃ id, d = .loop id
  | .answer d _ canRun _ => (∃ id, d = .loop id) ∧ canRun = true

/-- A change is made that may have made work, or a step takes in its answer. -/
def Stirs (s : Scene) : Event → Prop
  | .change _ c => s.state.Stirs c
  | .go _ => False
  | .answer d .. => s.underway d ≠ none

/-- No loop runs, and the event makes no work. -/
def Quiet (s : Scene) (e : Event) : Prop := s.state.looping = false ∧ ¬ s.Stirs e

/-- A loop takes in the answer to a step and gives up its claim, because the step failed or was the
last one that it may make. -/
def LeavesWork (s : Scene) (e : Event) : Prop :=
  ∃ id plan l answer heard, e = .answer (.loop id) answer true heard ∧
    s.underway (.loop id) = some plan ∧ s.sync.loop? id = some l ∧
    s.state.looping = true ∧ (s.next e).state.looping = false ∧
    ((s.sync.conclude plan answer true heard).2 = .failed plan.step ∨
      (s.sync.conclude plan answer true heard).2 = .completed plan.step ∧
        s.sync.settings.maxSteps ≤ l.completed + 1)

variable {s : Scene} {e : Event}

/-- Whoever drives, the claim stands for the last loop. -/
theorem claimed_next (h : Claimed s.sync) (e : Event) : Claimed (s.next e).sync := by
  cases e with
  | change canRun c => exact h.change canRun c
  | go d =>
    cases d with
    | loop id => exact h.wakeLoop id
    | hand n =>
      rcases s.next_go_hand n with ⟨same, -⟩ | ⟨plan, -, -, going⟩
      · rw [same]
        exact h
      · rw [going]
        exact h.of_silent (silent_announce s.sync plan).symm
  | answer d answer canRun heard =>
    cases waiting : s.underway d with
    | none =>
      rw [next_answer_of_none s waiting]
      exact h
    | some plan =>
      cases d with
      | hand n =>
        rw [next_answer_hand s waiting]
        exact h.conclude plan answer canRun heard
      | loop id =>
        obtain ⟨l, found, stage, advanced⟩ := next_answer_loop s waiting answer canRun heard
        have running : l.stage ≠ .finished := by rw [stage]; exact nofun
        rw [advanced]
        exact (h.conclude plan answer canRun heard).advanceLoop found running
          (conclude_outcome s.sync plan answer canRun heard)

theorem claimed_run (h : Claimed s.sync) (events : List Event) : Claimed (s.run events).sync := by
  induction events generalizing s with
  | nil => exact h
  | cons e rest ih => exact ih (claimed_next h e)

/-- What may be said after an event: the claim stands, or nothing is to be done, or a loop left its
work, or nothing happened at all. -/
def ClaimAfter (s : Scene) (e : Event) : Prop :=
  (s.next e).state.looping = true ∨ (s.next e).state.plan s.sync.settings = none ∨
    s.LeavesWork e ∨ s.Quiet e ∧ (s.next e).state = s.state

/-- An event that makes no work and leaves the state alone. -/
theorem claimAfter_of_eq (same : (s.next e).state = s.state)
    (calm : s.state.looping = false → ¬ s.Stirs e) : s.ClaimAfter e := by
  cases looping : s.state.looping with
  | true => exact .inl (by rw [same, looping])
  | false => exact .inr (.inr (.inr ⟨⟨looping, calm looping⟩, same⟩))

theorem claimAfter_change (background : s.sync.settings.background = true) (c : Change) :
    s.ClaimAfter (.change true c) := by
  rcases looping_change_or_silent background c with claim | silent
  · exact .inl claim
  · have same : (s.next (.change true c)).state = s.state := state_of_silent silent
    apply claimAfter_of_eq same
    intro free stirs
    have claim := looping_of_stirs background stirs
    exact nomatch claim.symm.trans ((congrArg State.looping same).trans free)

theorem claimAfter_go (h : Claimed s.sync) (id : Nat) : s.ClaimAfter (.go (.loop id)) := by
  have woken : (s.next (.go (.loop id))).state = (s.sync.wakeLoop id).1.state := rfl
  rcases s.sync.wakeLoop_cases id with
    ⟨same, -⟩ | ⟨l, found, stage, moved⟩ | ⟨l, found, between, ⟨idle, moved⟩ | ⟨plan, -, moved⟩⟩
  · exact claimAfter_of_eq (by rw [woken, same]) fun _ stirs => stirs
  · have running : l.stage ≠ .finished := by rw [stage]; exact nofun
    refine .inl ?_
    rw [woken, state_of_silent moved]
    exact (h.last found running).1
  · refine .inr (.inl ?_)
    rw [woken, state_of_silent moved]
    exact idle
  · refine .inl ?_
    rw [woken, state_of_silent moved]
    exact (h.last found between.running).1

theorem claimAfter_answer (h : Claimed s.sync) (id : Nat) (answer : Answer)
    (heard : List Change) : s.ClaimAfter (.answer (.loop id) answer true heard) := by
  cases waiting : s.underway (.loop id) with
  | none =>
    have same := next_answer_of_none s waiting answer true heard
    exact claimAfter_of_eq (by rw [same]) fun _ stirs => stirs waiting
  | some plan =>
    obtain ⟨l, found, stage⟩ := loop?_of_awaited waiting
    have running : l.stage ≠ .finished := by rw [stage]; exact nofun
    have claim := (h.last found running).1
    -- Whoever hears of loaded groups finds the claim taken, so no other loop starts meanwhile.
    obtain ⟨claimed, loops⟩ := loops_conclude plan answer true heard claim
    have found' : (s.sync.conclude plan answer true heard).1.loop? id = some l := by
      rw [loop?, loops]
      exact found
    obtain ⟨-, -, -, advanced⟩ := next_answer_loop s waiting answer true heard
    rcases advanceLoop_cases found' (conclude_outcome s.sync plan answer true heard) with
      ⟨f, -, moved, cause⟩ | ⟨f, -, moved⟩
    · refine .inr (.inr (.inl ⟨id, plan, l, answer, heard, rfl, waiting, found, claim, ?_, ?_⟩))
      · rw [advanced, state, state_of_silent moved]
        rfl
      · rw [settings_conclude] at cause
        exact cause
    · refine .inl ?_
      rw [advanced, state, state_of_silent moved]
      exact claimed

theorem claimAfter (h : Claimed s.sync) (background : s.sync.settings.background = true)
    (ok : s.ByLoops e) : s.ClaimAfter e := by
  cases e with
  | change canRun c =>
    obtain rfl : canRun = true := ok
    exact claimAfter_change background c
  | go d =>
    obtain ⟨id, rfl⟩ := ok
    exact claimAfter_go h id
  | answer d answer canRun heard =>
    obtain ⟨⟨id, rfl⟩, rfl⟩ := ok
    exact claimAfter_answer h id answer heard

/-- After a run there is a claim, or nothing is to be done, or nothing happened in the run, or
nothing happened since a loop left its work. -/
theorem claim_run_cases {events : List Event} (h : Claimed s.sync)
    (background : s.sync.settings.background = true) (driven : Run.Admitted next ByLoops s events) :
    (s.run events).state.looping = true ∨ (s.run events).state.plan s.sync.settings = none ∨
      (∃ before e after, events = before ++ e :: after ∧ (s.run before).LeavesWork e ∧
        Run.Admitted next Quiet ((s.run before).next e) after) ∨
      Run.Admitted next Quiet s events ∧ (s.run events).state = s.state := by
  induction events generalizing s with
  | nil => exact .inr (.inr (.inr ⟨trivial, rfl⟩))
  | cons e rest ih =>
    obtain ⟨ok, later⟩ := driven
    have settings := s.settings_next e
    have rest_cases := ih (claimed_next h _) (settings ▸ background) later
    rw [settings] at rest_cases
    rcases rest_cases with claim | idle | ⟨before, e', after, rfl, leaves, quiet⟩ | ⟨quiet, same⟩
    · exact .inl claim
    · exact .inr (.inl idle)
    · exact .inr (.inr (.inl ⟨e :: before, e', after, rfl, leaves, quiet⟩))
    · -- Nothing happened after the first event, so it decides.
      have last : (s.run (e :: rest)).state = (s.next e).state := same
      rcases claimAfter h background ok with claim | idle | leaves | ⟨calm, still⟩
      · exact .inl (last ▸ claim)
      · exact .inr (.inl (last ▸ idle))
      · exact .inr (.inr (.inl ⟨[], e, rest, rfl, leaves, quiet⟩))
      · exact .inr (.inr (.inr ⟨⟨calm, quiet⟩, last.trans still⟩))

theorem claimed_new (settings : SyncSettings) (wording : Wording) :
    Claimed (new settings wording).sync :=
  ⟨fun _ mem => (nomatch mem), nofun, fun _ _ mem => (nomatch mem)⟩

/-- One loop at a time and no lost wakeup. In every run that is driven by loops alone, in whatever
order changes are made and loops go on and end: as many loops are unfinished as there are claims,
and that is at most one; a change that may have made work leaves a claim; and if there is work and
no claim, then nothing has happened since a loop gave up its claim because its step failed or was
the last one that it may make, or nothing ever happened. -/
theorem one_loop_no_lost_wakeup (settings : SyncSettings) (wording : Wording)
    (background : settings.background = true)
    (events : List Event) (driven : Run.Admitted next ByLoops (new settings wording) events) :
    let s := (new settings wording).run events
    ((s.sync.loops.filter fun l => l.stage ≠ .finished).length =
      if s.state.looping then 1 else 0) ∧
    (∀ r : Reconciler, r.settings = settings → ∀ c, r.state.Stirs c →
      (r.change true c).state.looping = true) ∧
    (s.state.looping = false → s.state.plan settings ≠ none →
      (∃ before e after, events = before ++ e :: after ∧
        ((new settings wording).run before).LeavesWork e ∧
        Run.Admitted next Quiet (((new settings wording).run before).next e) after) ∨
      Run.Admitted next Quiet (new settings wording) events) := by
  intro s
  have claimed : Claimed s.sync := claimed_run (claimed_new settings wording) events
  refine ⟨claimed.count, ?_, ?_⟩
  · intro r same c stirs
    exact looping_of_stirs (same ▸ background) stirs
  · intro free work
    rcases claim_run_cases (claimed_new settings wording) background driven with
      claim | idle | left | ⟨quiet, -⟩
    · exact nomatch claim.symm.trans free
    · exact absurd idle work
    · exact .inl left
    · exact .inr quiet

/-- A loop is started by a request, makes a step that fails, and leaves the lights to be listed. -/
theorem one_loop_no_lost_wakeup_of_failure :
    let lost : Answer := .error (.transport "connection reset by peer")
    let events : List Event := [
      .change true .runLoop, .go (.loop 0), .go (.loop 0), .answer (.loop 0) lost true [],
      .go (.loop 0)]
    let s := (new .default .brief).run events
    Run.Admitted next ByLoops (new .default .brief) events ∧ s.state.looping = false ∧
      s.state.plan .default = some .loadLights ∧
      ((∃ before e after, events = before ++ e :: after ∧
        ((new .default .brief).run before).LeavesWork e ∧
        Run.Admitted next Quiet (((new .default .brief).run before).next e) after) ∨
      Run.Admitted next Quiet (new .default .brief) events) := by
  intro lost events s
  have driven : Run.Admitted next ByLoops (new .default .brief) events :=
    ⟨rfl, ⟨0, rfl⟩, ⟨0, rfl⟩, ⟨⟨0, rfl⟩, rfl⟩, ⟨0, rfl⟩, trivial⟩
  have work : s.state.plan .default = some .loadLights := rfl
  refine ⟨driven, rfl, work, ?_⟩
  exact (one_loop_no_lost_wakeup .default _ rfl events driven).2.2 rfl (by rw [work]; exact nofun)

end Scene

end LightSync.Reconciler
