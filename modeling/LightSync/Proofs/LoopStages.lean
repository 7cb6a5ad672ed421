import LightSync.Proofs.SingleLoop

/-!
# Where a loop stands

A loop that is woken or hears the end of its step moves from one stage to the next. It ends when it
finds nothing to do, when a step fails, and with the last step that it may make.

## Main definitions

- `LoopAt`: where a loop stands
- `Ended`: a loop that has ended
-/

namespace LightSync.Reconciler

open Bridge

/-- A loop stands at a stage, after some completed steps. -/
structure LoopAt (r : Reconciler) (id completed : Nat) (stage : Stage) : Prop where
  claimed : Claimed r
  found : r.loop? id = some ⟨id, completed, stage⟩

/-- A loop has ended after some completed steps, and none runs. -/
structure Ended (r : Reconciler) (id completed : Nat) : Prop extends
    LoopAt r id completed .finished where
  free : r.state.looping = false

/-- A loop can be started where none runs. -/
theorem Claimed.loopAt_runLoop {r : Reconciler} (h : Claimed r) (idle : r.state.looping = false)
    (background : r.settings.background = true) :
    LoopAt (r.change true .runLoop) r.started 0 .fresh := by
  refine ⟨h.change true .runLoop, ?_⟩
  have made : r.change true .runLoop = r.claimLoop true := change_of_changed rfl true
  rcases r.claimLoop_cases true with ⟨-, -, -, claimed⟩ | ⟨taken, -⟩
  · have none : r.loops.find? (·.id = r.started) = none :=
      List.find?_eq_none.2 fun l mem => by simpa using Nat.ne_of_lt (h.fresh l mem)
    rw [made, claimed, loop?, List.find?_append, none]
    simp
  · exact absurd ⟨background, idle, rfl⟩ taken

namespace LoopAt

variable {r t : Reconciler} {id completed : Nat} {stage : Stage} {plan : Plan}

theorem awaited (h : LoopAt r id completed (.awaiting plan)) : r.awaited id = some plan := by
  rw [Reconciler.awaited, h.found]
  rfl

/-- A loop that is moved stands where it was moved to. -/
theorem of_modifyLoop (h : LoopAt r id completed stage) (claimed : Claimed t) {f : Loop → Loop}
    (moved : t.loops = (r.modifyLoop id f).loops) (kept : ∀ l, (f l).id = l.id) {n : Nat}
    {stage' : Stage} (here : f ⟨id, completed, stage⟩ = ⟨id, n, stage'⟩) :
    LoopAt t id n stage' := by
  refine ⟨claimed, ?_⟩
  have found := loop?_modifyLoop r id id kept
  rw [h.found, if_pos rfl, Option.map_some, here, loop?, ← moved] at found
  exact found

/-- A loop that was just started waits for changes to settle. -/
theorem wakeLoop_of_fresh (h : LoopAt r id completed .fresh) :
    (r.wakeLoop id).2 = .pause r.settings.settleDelayMs ∧
      LoopAt (r.wakeLoop id).1 id completed .settling := by
  have claimed := h.claimed.wakeLoop id
  have woken : r.wakeLoop id =
      ((r.note (.debug "Reconciliation loop started")).setStage id .settling,
        .pause r.settings.settleDelayMs) := by
    simp only [wakeLoop, h.found]
  have moved : (r.wakeLoop id).1.loops = (r.setStage id .settling).loops := by
    rw [woken]
    rfl
  exact ⟨by rw [woken], h.of_modifyLoop claimed moved (fun _ => rfl) rfl⟩

/-- A loop between two steps that finds nothing to do ends. -/
theorem wakeLoop_of_idle (h : LoopAt r id completed stage) (between : stage.IsBetween)
    (idle : r.state.plan r.settings = none) :
    (r.wakeLoop id).2 = .nothing ∧ Ended (r.wakeLoop id).1 id completed := by
  have claimed := h.claimed.wakeLoop id
  rcases wakeLoop_of_between h.found between with ⟨-, woken⟩ | ⟨plan, planned, -⟩
  · have moved := loops_of_silent woken
    refine ⟨?_, h.of_modifyLoop claimed moved (fun _ => rfl) rfl, ?_⟩
    · rcases between with rfl | rfl <;> simp only [wakeLoop, h.found, begin, idle]
    · rw [state_of_silent woken]
      rfl
  · cases idle.symm.trans planned

/-- A loop between two steps that finds something to do makes a request. -/
theorem wakeLoop_of_planned (h : LoopAt r id completed stage) (between : stage.IsBetween)
    (planned : r.state.plan r.settings = some plan) :
    (r.wakeLoop id).2 = .answer plan.request ∧
      LoopAt (r.wakeLoop id).1 id completed (.awaiting plan) := by
  have claimed := h.claimed.wakeLoop id
  rcases wakeLoop_of_between h.found between with ⟨idle, -⟩ | ⟨plan', planned', woken⟩
  · cases idle.symm.trans planned
  · cases planned.symm.trans planned'
    refine ⟨?_, h.of_modifyLoop claimed (loops_of_silent woken) (fun _ => rfl) rfl⟩
    rcases between with rfl | rfl <;> simp only [wakeLoop, h.found, begin, planned]

/-- Whoever hears of loaded groups does not concern a running loop. -/
theorem conclude (h : LoopAt r id completed stage) (running : stage ≠ .finished) (plan : Plan)
    (answer : Answer) (canRun : Bool) (heard : List Change) :
    LoopAt (r.conclude plan answer canRun heard).1 id completed stage := by
  have claim := (h.claimed.last h.found running).1
  refine ⟨h.claimed.conclude plan answer canRun heard, ?_⟩
  rw [loop?, (loops_conclude plan answer canRun heard claim).2]
  exact h.found

section

variable (h : LoopAt r id completed stage) (running : stage ≠ .finished) (step : Step)
include h running

/-- A loop ends with a step that fails. -/
theorem advanceLoop_of_failed :
    (r.advanceLoop id (.failed step)).2 = .nothing ∧
      Ended (r.advanceLoop id (.failed step)).1 id completed := by
  have claimed := h.claimed.advanceLoop h.found running (.inl rfl : (Outcome.failed step).IsOf step)
  have advanced := silent_advanceLoop_failed h.found step
  have moved := loops_of_silent advanced
  refine ⟨?_, h.of_modifyLoop claimed moved (fun _ => rfl) rfl, ?_⟩
  · simp only [advanceLoop, h.found]
  · rw [state_of_silent advanced]
    rfl

/-- A loop ends with the last step that it may make. -/
theorem advanceLoop_of_last (last : r.settings.maxSteps ≤ completed + 1) :
    (r.advanceLoop id (.completed step)).2 = .nothing ∧
      Ended (r.advanceLoop id (.completed step)).1 id (completed + 1) := by
  have claimed := h.claimed.advanceLoop h.found running
    (.inr rfl : (Outcome.completed step).IsOf step)
  have advanced := silent_advanceLoop_completed h.found step
  rw [if_pos last] at advanced
  have moved := loops_of_silent advanced
  refine ⟨?_, h.of_modifyLoop claimed moved (fun _ => rfl) rfl, ?_⟩
  · simp only [advanceLoop, h.found]
    rw [if_pos]
    exact last
  · rw [state_of_silent advanced]
    rfl

/-- After any other step that it completes, a loop rests. -/
theorem advanceLoop_of_completed (more : ¬ r.settings.maxSteps ≤ completed + 1) :
    (r.advanceLoop id (.completed step)).2 = .pause r.settings.stepIntervalMs ∧
      LoopAt (r.advanceLoop id (.completed step)).1 id (completed + 1) .resting := by
  have claimed := h.claimed.advanceLoop h.found running
    (.inr rfl : (Outcome.completed step).IsOf step)
  have advanced := silent_advanceLoop_completed h.found step
  rw [if_neg more] at advanced
  refine ⟨?_, h.of_modifyLoop claimed (loops_of_silent advanced) (fun _ => rfl) rfl⟩
  simp only [advanceLoop, h.found]
  rw [if_neg]
  · rfl
  · exact more

end

end LoopAt

end LightSync.Reconciler
