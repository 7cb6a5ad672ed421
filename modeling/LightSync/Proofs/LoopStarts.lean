import LightSync.Proofs.SingleLoop

/-!
# How loops come and go

Whatever is done to a reconciler either starts at most one loop, where none runs, or moves the loop
that runs. A loop that is finished stays as it is.

## Main definitions

- `MayStart`: at most one loop is started
- `Moves`: the loop with an id is moved

## Main results

- `mayStart_change`, `mayStart_conclude`, `wakeLoop_moves`, `advanceLoop_moves`
- `Scene.answer_moves`, `Scene.loops_next_cases`: what an event does to the loops
-/

namespace LightSync.Reconciler

open Bridge

variable {r s t : Reconciler} {i j : Nat} {l : Loop}

/-! ## Loops that are started -/

/-- No loop is started, or one is where none runs. -/
inductive MayStart (r t : Reconciler) : Prop where
  | none (loops : t.loops = r.loops) (latest : t.latest = r.latest)
      (started : t.started = r.started) (claim : t.state.looping = r.state.looping)
  | one (free : r.state.looping = false) (loops : t.loops = r.loops ++ [⟨r.started, 0, .fresh⟩])
      (latest : t.latest = some r.started) (claim : t.state.looping = true)

theorem latest_of_silent (same : r.silent = t.silent) : r.latest = t.latest :=
  (congrArg Reconciler.latest same :)

theorem mayStart_of_silent (same : t.silent = r.silent) : MayStart r t :=
  .none (loops_of_silent same) (latest_of_silent same) (started_of_silent same)
    (by rw [state_of_silent same])

/-- Where a loop was started, no other one is. -/
theorem MayStart.trans (first : MayStart r s) (second : MayStart s t) : MayStart r t := by
  cases second with
  | none loops latest started claim =>
    cases first with
    | none loops' latest' started' claim' =>
      exact .none (loops.trans loops') (latest.trans latest') (started.trans started')
        (claim.trans claim')
    | one free loops' latest' claim' =>
      exact .one free (loops.trans loops') (latest.trans latest') (claim.trans claim')
  | one free loops latest claim =>
    cases first with
    | none loops' latest' started' claim' =>
      refine .one (claim'.symm.trans free) ?_ (started' ▸ latest) claim
      rw [loops, loops', started']
    | one free' loops' latest' claim' => exact nomatch claim'.symm.trans free

theorem mayStart_claimLoop (r : Reconciler) (canRun : Bool) : MayStart r (r.claimLoop canRun) := by
  rcases r.claimLoop_cases canRun with ⟨-, free, -, claimed⟩ | ⟨-, same⟩
  · rw [claimed]
    exact .one free rfl rfl rfl
  · rw [same]
    exact .none rfl rfl rfl rfl

theorem mayStart_change (r : Reconciler) (canRun : Bool) (c : Change) :
    MayStart r (r.change canRun c) := by
  by_cases made : (r.state.change c).2 = .changed
  · have changed : MayStart r { r with state := (r.state.change c).1 } :=
      .none rfl rfl rfl (r.state.looping_change c)
    rw [change_of_changed made]
    exact changed.trans (mayStart_claimLoop _ canRun)
  · exact mayStart_of_silent (silent_change_of_not_changed made canRun)

theorem mayStart_changeAll (r : Reconciler) (canRun : Bool) (cs : List Change) :
    MayStart r (r.changeAll canRun cs) := by
  induction cs generalizing r with
  | nil => exact .none rfl rfl rfl rfl
  | cons c rest ih => exact (mayStart_change r canRun c).trans (ih _)

theorem mayStart_conclude (r : Reconciler) (plan : Plan) (answer : Answer) (canRun : Bool)
    (heard : List Change) : MayStart r (r.conclude plan answer canRun heard).1 := by
  cases outcome : plan.read answer with
  | error failure => exact mayStart_of_silent (conclude_of_error outcome r canRun heard).1
  | ok u =>
    have updated : MayStart r { r with state := r.state.update r.settings u } :=
      .none rfl rfl rfl (State.looping_update u)
    have concluded := (conclude_of_ok outcome r canRun heard).1
    split at concluded
    · exact (updated.trans (mayStart_changeAll _ canRun heard)).trans (mayStart_of_silent concluded)
    · exact updated.trans (mayStart_of_silent concluded)

/-! ## Loops that are moved -/

/-- The loop with an id is not finished, and it is moved. -/
structure Moves (i : Nat) (r t : Reconciler) : Prop where
  running : ∃ l, r.loop? i = some l ∧ l.stage ≠ .finished
  moved : ∃ f : Loop → Loop, (∀ l, (f l).id = l.id) ∧ t.loops = (r.modifyLoop i f).loops
  latest : t.latest = r.latest
  started : t.started = r.started

theorem Moves.loop?_of_ne (h : Moves i r t) (other : j ≠ i) : t.loop? j = r.loop? j := by
  obtain ⟨f, kept, moved⟩ := h.moved
  have same := loop?_modifyLoop r i j kept
  rw [if_neg other, Option.map_id] at same
  rw [loop?, moved]
  exact same

/-- A loop that is moved is still there. -/
theorem Moves.loop?_ne_none (h : Moves i r t) (known : r.loop? j ≠ none) : t.loop? j ≠ none := by
  obtain ⟨f, kept, moved⟩ := h.moved
  have same := loop?_modifyLoop r i j kept
  rw [loop?, moved]
  intro gone
  exact known (Option.map_eq_none_iff.1 (same.symm.trans gone))

theorem Moves.length_eq (h : Moves i r t) : t.loops.length = r.loops.length := by
  obtain ⟨f, -, moved⟩ := h.moved
  rw [moved]
  exact List.length_map _

/-- A loop is moved, whatever else becomes of the state. -/
theorem moves_of_silent (found : r.loop? i = some l) (running : l.stage ≠ .finished)
    {f : Loop → Loop} (state : State) (moved : t.silent = ({ r with state }.modifyLoop i f).silent)
    (kept : ∀ l, (f l).id = l.id) : Moves i r t :=
  ⟨⟨l, found, running⟩, ⟨f, kept, (loops_of_silent moved :)⟩, (latest_of_silent moved :),
    (started_of_silent moved :)⟩

/-- A loop that is woken is moved, unless it waits for an answer or does not run. -/
theorem wakeLoop_moves (r : Reconciler) (i : Nat) :
    (r.wakeLoop i).1 = r ∨ Moves i r (r.wakeLoop i).1 := by
  rcases r.wakeLoop_cases i with
    ⟨same, -⟩ | ⟨l, found, stage, woken⟩ | ⟨l, found, between, ⟨-, woken⟩ | ⟨plan, -, woken⟩⟩
  · exact .inl same
  · have running : l.stage ≠ .finished := by rw [stage]; exact nofun
    exact .inr (moves_of_silent found running r.state woken fun _ => rfl)
  · exact .inr (moves_of_silent found between.running r.releaseLoop.state woken fun _ => rfl)
  · exact .inr (moves_of_silent found between.running r.state woken fun _ => rfl)

theorem advanceLoop_moves (found : r.loop? i = some l) (running : l.stage ≠ .finished)
    {step : Step} {outcome : Outcome} (made : outcome.IsOf step) :
    Moves i r (r.advanceLoop i outcome).1 := by
  rcases advanceLoop_cases found made with ⟨f, kept, advanced, -⟩ | ⟨f, kept, advanced⟩
  · exact moves_of_silent found running r.releaseLoop.state advanced fun l => (kept l).1
  · exact moves_of_silent found running r.state advanced fun l => (kept l).1

/-- While a loop runs, every other one is finished. -/
theorem Claimed.finished_of_ne (h : Claimed r) (found : r.loop? i = some l)
    (running : l.stage ≠ .finished) {m : Loop} (found' : r.loop? j = some m) (other : j ≠ i) :
    m.stage = .finished := by
  obtain ⟨-, done, loops, here, finished⟩ := h.last found running
  have mem : m ∈ r.loops := List.mem_of_find?_eq_some found'
  have there : m.id = j := by simpa using List.find?_some found'
  rw [loops] at mem
  rcases List.mem_append.1 mem with old | new
  · exact (finished m old).1
  · cases List.mem_singleton.1 new
    exact absurd (there.symm.trans here) other

/-- No loop has the next id. -/
theorem Claimed.loop?_started (h : Claimed r) : r.loop? r.started = none :=
  List.find?_eq_none.2 fun l mem => by simpa using Nat.ne_of_lt (h.fresh l mem)

/-- A loop that is started is fresh, and the other ones stay as they are. -/
theorem Claimed.loop?_of_started (h : Claimed r)
    (loops : t.loops = r.loops ++ [⟨r.started, 0, .fresh⟩]) (j : Nat) :
    t.loop? j = if j = r.started then some ⟨j, 0, .fresh⟩ else r.loop? j := by
  rw [loop?, loops, List.find?_append]
  split
  · next new =>
    have none := h.loop?_started
    rw [loop?] at none
    subst new
    rw [none]
    simp
  · next old =>
    have other : ¬ r.started = j := fun same => old same.symm
    simp [loop?, other]

/-- Where the claim stands, a loop runs. -/
theorem Claimed.exists_running (h : Claimed r) (claim : r.state.looping = true) :
    ∃ l, r.loop? l.id = some l ∧ l.stage ≠ .finished := by
  obtain ⟨done, l, loops, running, finished⟩ := h.running claim
  have others : done.find? (·.id = l.id) = none :=
    List.find?_eq_none.2 fun m mem => by simpa using (finished m mem).2
  refine ⟨l, ?_, running⟩
  rw [loop?, loops, List.find?_append, others]
  simp

namespace Scene

variable {s : Scene}

/-- A loop that takes in the answer to its request is moved, and starts no other one. -/
theorem answer_moves (h : Claimed s.sync) {id : Nat} {plan : Plan}
    (waiting : s.sync.awaited id = some plan) (answer : Answer) (canRun : Bool)
    (heard : List Change) :
    Moves id s.sync (s.next (.answer (.loop id) answer canRun heard)).sync := by
  obtain ⟨l, found, stage⟩ := loop?_of_awaited waiting
  have running : l.stage ≠ .finished := by rw [stage]; exact nofun
  have claim := (h.last found running).1
  obtain ⟨l', found', stage', advanced⟩ := next_answer_loop s waiting answer canRun heard
  have running' : l'.stage ≠ .finished := by rw [stage']; exact nofun
  have moves := advanceLoop_moves found' running'
    (conclude_outcome s.sync plan answer canRun heard)
  rw [advanced]
  -- The claim is taken, so whoever hears of loaded groups starts no loop.
  cases mayStart_conclude s.sync plan answer canRun heard with
  | one free => exact nomatch claim.symm.trans free
  | none loops latest started =>
    obtain ⟨f, kept, moved⟩ := moves.moved
    refine ⟨⟨l, found, running⟩, ⟨f, kept, ?_⟩, moves.latest.trans latest,
      moves.started.trans started⟩
    rw [moved, modifyLoop, loops]
    rfl

/-- An event starts at most one loop, where none runs, or moves the one that runs. -/
theorem loops_next_cases (h : Claimed s.sync) (e : Event) :
    MayStart s.sync (s.next e).sync ∨ ∃ id, Moves id s.sync (s.next e).sync := by
  cases e with
  | change canRun c => exact .inl (mayStart_change s.sync canRun c)
  | go d =>
    cases d with
    | hand n =>
      rcases s.next_go_hand n with ⟨same, -⟩ | ⟨plan, -, -, going⟩
      · exact .inl (mayStart_of_silent (by rw [same]))
      · rw [going]
        exact .inl (mayStart_of_silent (silent_announce s.sync plan))
    | loop id =>
      rcases s.sync.wakeLoop_moves id with same | moves
      · exact .inl (mayStart_of_silent (congrArg silent same))
      · exact .inr ⟨id, moves⟩
  | answer d answer canRun heard =>
    cases waiting : s.underway d with
    | none => exact .inl (mayStart_of_silent (by rw [next_answer_of_none s waiting]))
    | some plan =>
      cases d with
      | hand n =>
        rw [next_answer_hand s waiting]
        exact .inl (mayStart_conclude s.sync plan answer canRun heard)
      | loop id => exact .inr ⟨id, answer_moves h waiting answer canRun heard⟩

end Scene
end LightSync.Reconciler
