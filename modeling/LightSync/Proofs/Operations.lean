import LightSync.Proofs.Update
import LightSync.Reconciler.Loop

/-!
# What the operations of a reconciler do

What the operations of a reconciler do to its state, its settings and its loops. The log and the
journal take no part in this: reconcilers that differ in nothing else stay so. Taking in an answer
either fails, and then only the failure is recorded, or makes the update in it.

## Main definitions

- `Reconciler.silent`: the reconciler without its log and its journal
- `Reconciler.conclude`, `State.take`: an answer is taken in
- `Reconciler.awaited`: the step of a loop whose request is under way
-/

namespace LightSync.Reconciler

open Bridge

/-- Takes in the answer to the request of a step. Whoever is told that the managed groups were just
loaded makes the changes `heard`. -/
def conclude (r : Reconciler) (plan : Plan) (answer : Answer) (canRun : Bool)
    (heard : List Change) : Reconciler × Outcome :=
  let (r, outcome, loaded) := (r.receive plan.request answer).finish plan answer
  (if loaded then r.changeAll canRun heard else r, outcome)

/-- The plan whose request is under way at a stage. -/
def Stage.plan? : Stage → Option Plan
  | .awaiting plan => some plan
  | _ => none

/-- The step of a loop whose request is under way. -/
def awaited (r : Reconciler) (id : Nat) : Option Plan := (r.loop? id).bind (·.stage.plan?)

/-! ## The log and the journal -/

/-- The reconciler without its log and its journal. -/
def silent (r : Reconciler) : Reconciler := { r with log := .new 0, journal := #[] }

theorem state_of_silent {r t : Reconciler} (same : r.silent = t.silent) : r.state = t.state :=
  (congrArg Reconciler.state same :)

/-- What a reconciler is given when it is made, and no operation changes. -/
def setup (r : Reconciler) : SyncSettings × Wording := (r.settings, r.wording)

theorem setup_of_silent {r t : Reconciler} (same : r.silent = t.silent) : r.setup = t.setup :=
  (congrArg setup same :)

theorem settings_of_silent {r t : Reconciler} (same : r.silent = t.silent) :
    r.settings = t.settings :=
  congrArg Prod.fst (setup_of_silent same)

theorem loops_of_silent {r t : Reconciler} (same : r.silent = t.silent) : r.loops = t.loops :=
  (congrArg Reconciler.loops same :)

theorem started_of_silent {r t : Reconciler} (same : r.silent = t.silent) :
    r.started = t.started :=
  (congrArg Reconciler.started same :)

/-- Reconcilers that differ in nothing else differ in the log and the journal. -/
theorem eq_with_of_silent {r t : Reconciler} (same : r.silent = t.silent) :
    ∃ log journal, r = { t with log, journal } := by
  cases r
  cases t
  simp only [silent, Reconciler.mk.injEq] at same
  obtain ⟨rfl, rfl, rfl, -, rfl, rfl, rfl, -⟩ := same
  exact ⟨_, _, rfl⟩

theorem loop?_of_silent {r t : Reconciler} (same : r.silent = t.silent) (id : Nat) :
    r.loop? id = t.loop? id := by
  rw [loop?, loop?, loops_of_silent same]

theorem awaited_of_silent {r t : Reconciler} (same : r.silent = t.silent) (id : Nat) :
    r.awaited id = t.awaited id := by
  rw [awaited, awaited, loop?_of_silent same]

section Silent

variable (r : Reconciler)

@[simp] theorem silent_note (line : Line) : (r.note line).silent = r.silent := rfl

@[simp] theorem silent_noteAll (lines : List Line) : (r.noteAll lines).silent = r.silent := by
  unfold noteAll
  induction lines generalizing r with
  | nil => rfl
  | cons line rest ih => exact ih (r.note line)

@[simp] theorem silent_noteWrite (path : String) (response : Response) :
    (r.noteWrite path response).silent = r.silent := rfl

@[simp] theorem silent_noteReply (path : String) (response : Response) :
    (r.noteReply path response).silent = r.silent := by
  unfold noteReply
  split <;> simp

@[simp] theorem silent_announce (plan : Plan) : (r.announce plan).silent = r.silent := by
  cases plan <;> rfl

@[simp] theorem silent_receive (request : Request) (answer : Answer) :
    (r.receive request answer).silent = r.silent := by
  unfold receive
  split
  · rfl
  · split <;> rfl

@[simp] theorem silent_noteUpdate (plan : Plan) (answer : Answer) (u : Update) :
    (r.noteUpdate plan answer u).silent = r.silent := by
  unfold noteUpdate
  split <;> simp

end Silent

/-! ## Changes and the claim of a loop -/

theorem change_of_changed {r : Reconciler} {c : Change} (made : (r.state.change c).2 = .changed)
    (canRun : Bool) :
    r.change canRun c = { r with state := (r.state.change c).1 }.claimLoop canRun := by
  unfold change
  split
  · rename_i heq
    rw [heq] at made
    cases made
  · rename_i heq
    rw [heq] at made
    cases made
  · rename_i heq
    rw [heq]

theorem silent_change_of_not_changed {r : Reconciler} {c : Change}
    (nothing : (r.state.change c).2 ≠ .changed) (canRun : Bool) :
    (r.change canRun c).silent = r.silent := by
  unfold change
  split
  · rfl
  · rfl
  · rename_i heq
    rw [heq] at nothing
    exact absurd rfl nothing

/-- The claim is taken by a new loop, or everything stays as it is. -/
theorem claimLoop_cases (r : Reconciler) (canRun : Bool) :
    (r.settings.background = true ∧ r.state.looping = false ∧ canRun = true ∧
      r.claimLoop canRun = { r with
        state := { r.state with looping := true }
        loops := r.loops ++ [⟨r.started, 0, .fresh⟩]
        latest := some r.started
        started := r.started + 1 }) ∨
    (¬(r.settings.background = true ∧ r.state.looping = false ∧ canRun = true) ∧
      r.claimLoop canRun = r) := by
  unfold claimLoop
  split
  · rename_i free
    simp only [Bool.and_eq_true, Bool.not_eq_true'] at free
    exact .inl ⟨free.1.1, free.1.2, free.2, rfl⟩
  · rename_i taken
    simp only [Bool.and_eq_true, Bool.not_eq_true'] at taken
    exact .inr ⟨fun ⟨background, looping, runs⟩ => taken ⟨⟨background, looping⟩, runs⟩, rfl⟩

theorem setup_claimLoop (r : Reconciler) (canRun : Bool) :
    (r.claimLoop canRun).setup = r.setup := by
  rcases r.claimLoop_cases canRun with ⟨-, -, -, claimed⟩ | ⟨-, same⟩
  · rw [claimed]
    rfl
  · rw [same]

theorem unclaimed_claimLoop (r : Reconciler) (canRun : Bool) :
    (r.claimLoop canRun).state.unclaimed = r.state.unclaimed := by
  rcases r.claimLoop_cases canRun with ⟨-, -, -, claimed⟩ | ⟨-, same⟩
  · rw [claimed]
    rfl
  · rw [same]

/-- A loop that was just started has no request under way. -/
theorem awaited_claimLoop (r : Reconciler) (canRun : Bool) (id : Nat) :
    (r.claimLoop canRun).awaited id = r.awaited id := by
  rcases r.claimLoop_cases canRun with ⟨-, -, -, claimed⟩ | ⟨-, same⟩
  · rw [claimed]
    simp only [awaited, loop?, List.find?_append]
    cases r.loops.find? (·.id = id) with
    | some l => rfl
    | none =>
      by_cases new : r.started = id
      · simp [new, Stage.plan?]
      · simp [new]
  · rw [same]

theorem setup_change (r : Reconciler) (canRun : Bool) (c : Change) :
    (r.change canRun c).setup = r.setup := by
  by_cases made : (r.state.change c).2 = .changed
  · rw [change_of_changed made, setup_claimLoop]
    rfl
  · exact setup_of_silent (silent_change_of_not_changed made canRun)

theorem settings_change (r : Reconciler) (canRun : Bool) (c : Change) :
    (r.change canRun c).settings = r.settings :=
  congrArg Prod.fst (r.setup_change canRun c)

theorem unclaimed_change (r : Reconciler) (canRun : Bool) (c : Change) :
    (r.change canRun c).state.unclaimed = (r.state.change c).1.unclaimed := by
  by_cases made : (r.state.change c).2 = .changed
  · rw [change_of_changed made, unclaimed_claimLoop]
  · rw [state_of_silent (silent_change_of_not_changed made canRun)]
    rcases r.state.change_cases c with ⟨_, _, _, eq⟩ | ⟨same, -⟩ | ⟨-, eq, -⟩
    · rw [eq] at made
      exact absurd rfl made
    · rw [same]
    · exact absurd eq made

theorem awaited_change (r : Reconciler) (canRun : Bool) (c : Change) (id : Nat) :
    (r.change canRun c).awaited id = r.awaited id := by
  by_cases made : (r.state.change c).2 = .changed
  · rw [change_of_changed made, awaited_claimLoop]
    rfl
  · exact awaited_of_silent (silent_change_of_not_changed made canRun) id

theorem changeAll_cons (r : Reconciler) (canRun : Bool) (c : Change) (cs : List Change) :
    r.changeAll canRun (c :: cs) = (r.change canRun c).changeAll canRun cs := rfl

theorem setup_changeAll (r : Reconciler) (canRun : Bool) (cs : List Change) :
    (r.changeAll canRun cs).setup = r.setup := by
  induction cs generalizing r with
  | nil => rfl
  | cons c rest ih => rw [changeAll_cons, ih, setup_change]

theorem unclaimed_changeAll (r : Reconciler) (canRun : Bool) (cs : List Change) :
    (r.changeAll canRun cs).state.unclaimed = (r.state.changes cs).unclaimed := by
  induction cs generalizing r with
  | nil => rfl
  | cons c rest ih =>
    rw [changeAll_cons, ih, State.changes_cons]
    exact State.changes_congr (unclaimed_change r canRun c) rest

theorem awaited_changeAll (r : Reconciler) (canRun : Bool) (cs : List Change) (id : Nat) :
    (r.changeAll canRun cs).awaited id = r.awaited id := by
  induction cs generalizing r with
  | nil => rfl
  | cons c rest ih => rw [changeAll_cons, ih, awaited_change]

theorem silent_claimLoop_congr {r t : Reconciler} (same : r.silent = t.silent) (canRun : Bool) :
    (r.claimLoop canRun).silent = (t.claimLoop canRun).silent := by
  obtain ⟨log, journal, rfl⟩ := eq_with_of_silent same
  cases free : t.settings.background && !t.state.looping && canRun <;>
    simp only [claimLoop, free] <;> rfl

/-- Changes do the same whatever was recorded before. -/
theorem silent_change_congr {r t : Reconciler} (same : r.silent = t.silent) (canRun : Bool)
    (c : Change) : (r.change canRun c).silent = (t.change canRun c).silent := by
  have state := state_of_silent same
  by_cases made : (r.state.change c).2 = .changed
  · rw [change_of_changed made, change_of_changed (state ▸ made)]
    obtain ⟨log, journal, rfl⟩ := eq_with_of_silent same
    refine silent_claimLoop_congr ?_ canRun
    rfl
  · rw [silent_change_of_not_changed made, silent_change_of_not_changed (state ▸ made), same]

theorem silent_changeAll_congr {r t : Reconciler} (same : r.silent = t.silent) (canRun : Bool)
    (cs : List Change) : (r.changeAll canRun cs).silent = (t.changeAll canRun cs).silent := by
  induction cs generalizing r t with
  | nil => exact same
  | cons c rest ih =>
    rw [changeAll_cons, changeAll_cons]
    exact ih (silent_change_congr same canRun c)

/-! ## Taking in an answer -/

/-- Does the update list the groups anew? -/
def Update.loads : Update → Bool
  | .groups _ => true
  | _ => false

/-- The state after the answer to a planned request was taken in. -/
def State.take (s : State) (settings : SyncSettings) (plan : Plan) (answer : Answer)
    (heard : List Change) : State :=
  match plan.read answer with
  | .error _ => s
  | .ok u =>
    let t := s.update settings u
    if u.loads && t.isReady then t.changes heard else t

/-- A step fails if its answer cannot be read, and then only the failure is recorded. -/
theorem conclude_of_error {plan : Plan} {answer : Answer} {failure : Failure}
    (h : plan.read answer = .error failure) (r : Reconciler) (canRun : Bool)
    (heard : List Change) :
    (r.conclude plan answer canRun heard).1.silent = r.silent ∧
      (r.conclude plan answer canRun heard).2 = .failed plan.step := by
  simp only [conclude, finish, h, and_true]
  exact silent_receive r plan.request answer

/-- An answer that can be read is taken in by making its update. -/
theorem finish_of_ok {plan : Plan} {answer : Answer} {u : Update} (h : plan.read answer = .ok u)
    (r : Reconciler) :
    let state := r.state.update r.settings u
    ∃ log journal, (r.receive plan.request answer).finish plan answer =
      ({ r with state, log, journal }, .completed plan.step, u.loads && state.isReady) := by
  obtain ⟨log, journal, noted⟩ := eq_with_of_silent
    ((silent_noteUpdate (r.receive plan.request answer) plan answer u).trans
      (silent_receive r plan.request answer))
  refine ⟨log, journal, ?_⟩
  simp only [finish, h, noted]
  cases u <;> rfl

/-- A step is completed if its answer can be read, and then the update is made. -/
theorem conclude_of_ok {plan : Plan} {answer : Answer} {u : Update}
    (h : plan.read answer = .ok u) (r : Reconciler) (canRun : Bool) (heard : List Change) :
    let t : Reconciler := { r with state := r.state.update r.settings u }
    (r.conclude plan answer canRun heard).1.silent =
        (if u.loads && t.state.isReady then t.changeAll canRun heard else t).silent ∧
      (r.conclude plan answer canRun heard).2 = .completed plan.step := by
  intro t
  obtain ⟨log, journal, finished⟩ := finish_of_ok h r
  simp only [conclude, finished, and_true]
  split
  · refine silent_changeAll_congr ?_ canRun heard
    rfl
  · rfl

def Outcome.IsOf (outcome : Outcome) (step : Step) : Prop :=
  outcome = .failed step ∨ outcome = .completed step

/-- A step is completed or it fails. -/
theorem conclude_outcome (r : Reconciler) (plan : Plan) (answer : Answer) (canRun : Bool)
    (heard : List Change) : (r.conclude plan answer canRun heard).2.IsOf plan.step := by
  cases outcome : plan.read answer with
  | error failure => exact .inl (conclude_of_error outcome r canRun heard).2
  | ok u => exact .inr (conclude_of_ok outcome r canRun heard).2

theorem setup_conclude (r : Reconciler) (plan : Plan) (answer : Answer) (canRun : Bool)
    (heard : List Change) : (r.conclude plan answer canRun heard).1.setup = r.setup := by
  cases h : plan.read answer with
  | error failure => exact setup_of_silent (conclude_of_error h r canRun heard).1
  | ok u =>
    rw [setup_of_silent (conclude_of_ok h r canRun heard).1]
    split
    · rw [setup_changeAll]
      rfl
    · rfl

theorem settings_conclude (r : Reconciler) (plan : Plan) (answer : Answer) (canRun : Bool)
    (heard : List Change) : (r.conclude plan answer canRun heard).1.settings = r.settings :=
  congrArg Prod.fst (r.setup_conclude plan answer canRun heard)

theorem awaited_conclude (r : Reconciler) (plan : Plan) (answer : Answer) (canRun : Bool)
    (heard : List Change) (i : Nat) :
    (r.conclude plan answer canRun heard).1.awaited i = r.awaited i := by
  cases h : plan.read answer with
  | error failure => exact awaited_of_silent (conclude_of_error h r canRun heard).1 i
  | ok u =>
    rw [awaited_of_silent (conclude_of_ok h r canRun heard).1 i]
    split
    · rw [awaited_changeAll]
      rfl
    · rfl

theorem unclaimed_conclude (r : Reconciler) (plan : Plan) (answer : Answer) (canRun : Bool)
    (heard : List Change) :
    (r.conclude plan answer canRun heard).1.state.unclaimed =
      (r.state.take r.settings plan answer heard).unclaimed := by
  unfold State.take
  cases h : plan.read answer with
  | error failure => rw [state_of_silent (conclude_of_error h r canRun heard).1]
  | ok u =>
    rw [state_of_silent (conclude_of_ok h r canRun heard).1]
    simp only
    split
    · rw [unclaimed_changeAll]
    · rfl

/-! ## Loops -/

/-- Is a loop between two steps? -/
def Stage.IsBetween (stage : Stage) : Prop := stage = .settling ∨ stage = .resting

theorem Stage.IsBetween.running {stage : Stage} (h : stage.IsBetween) : stage ≠ .finished := by
  rcases h with rfl | rfl <;> exact nofun

theorem Stage.IsBetween.waiting {stage : Stage} (h : stage.IsBetween) : stage.plan? = none := by
  rcases h with rfl | rfl <;> rfl

theorem loop?_modifyLoop (r : Reconciler) (i j : Nat) {f : Loop → Loop}
    (kept : ∀ l, (f l).id = l.id) :
    (r.modifyLoop i f).loop? j = (r.loop? j).map (if j = i then f else id) := by
  have look : ∀ l : Loop, (if l.id = i then f l else l).id = l.id := by
    intro l
    split
    · exact kept l
    · rfl
  simp only [modifyLoop, loop?, List.find?_map, Function.comp_def, look]
  cases found : r.loops.find? (·.id = j) with
  | none => rfl
  | some l =>
    have here : l.id = j := by simpa using List.find?_some found
    by_cases same : j = i
    · simp [here, same]
    · simp [here, same]

theorem awaited_modifyLoop (r : Reconciler) (i j : Nat) {f : Loop → Loop}
    (kept : ∀ l, (f l).id = l.id) :
    (r.modifyLoop i f).awaited j =
      if j = i then (r.loop? j).bind fun l => (f l).stage.plan? else r.awaited j := by
  rw [awaited, loop?_modifyLoop r i j kept, awaited]
  by_cases same : j = i
  · rw [if_pos same, if_pos same, Option.bind_map]
    rfl
  · simp [same]

theorem awaited_setStage (r : Reconciler) (i j : Nat) (stage : Stage) :
    (r.setStage i stage).awaited j =
      if j = i then (r.loop? j).bind fun _ => stage.plan? else r.awaited j :=
  awaited_modifyLoop r i j fun _ => rfl

/-- A loop has a request under way only at the stage of awaiting its answer. -/
theorem awaited_modifyLoop_of_none (r : Reconciler) (i j : Nat) {f : Loop → Loop}
    (kept : ∀ l, (f l).id = l.id ∧ (f l).stage.plan? = none) :
    (r.modifyLoop i f).awaited j = if j = i then none else r.awaited j := by
  -- A loop that is not there waits for nothing either.
  rw [awaited_modifyLoop r i j fun l => (kept l).1]
  have none : (r.loop? j).bind (fun l => (f l).stage.plan?) = none := by
    cases r.loop? j with
    | none => rfl
    | some l => exact (kept l).2
  rw [none]

theorem awaited_setStage_of_none (r : Reconciler) (i j : Nat) {stage : Stage}
    (h : stage.plan? = none) :
    (r.setStage i stage).awaited j = if j = i then none else r.awaited j :=
  awaited_modifyLoop_of_none r i j fun _ => ⟨rfl, h⟩

theorem loop?_of_awaited {r : Reconciler} {i : Nat} {plan : Plan} (h : r.awaited i = some plan) :
    ∃ l, r.loop? i = some l ∧ l.stage = .awaiting plan := by
  obtain ⟨l, found, stage⟩ := Option.bind_eq_some_iff.1 h
  refine ⟨l, found, ?_⟩
  cases reached : l.stage with
  | awaiting p =>
    rw [reached] at stage
    cases stage
    rfl
  | _ =>
    rw [reached] at stage
    cases stage

/-- A loop between two steps ends if there is nothing to do, and else makes a request. -/
theorem wakeLoop_of_between {r : Reconciler} {i : Nat} {l : Loop} (found : r.loop? i = some l)
    (between : l.stage.IsBetween) :
    (r.state.plan r.settings = none ∧
      (r.wakeLoop i).1.silent = (r.releaseLoop.setStage i .finished).silent) ∨
    ∃ plan, r.state.plan r.settings = some plan ∧
      (r.wakeLoop i).1.silent = (r.setStage i (.awaiting plan)).silent := by
  cases planned : r.state.plan r.settings with
  | none =>
    refine .inl ⟨rfl, ?_⟩
    rcases between with stage | stage <;> simp only [wakeLoop, found, stage, begin, planned] <;> rfl
  | some plan =>
    refine .inr ⟨plan, rfl, ?_⟩
    rcases between with stage | stage <;> simp only [wakeLoop, found, stage, begin, planned] <;>
      exact silent_announce _ plan

/-- A loop that goes on settles, ends because nothing is to be done, or makes a request. One that
waits for an answer does nothing, as one that is finished or was never started. -/
theorem wakeLoop_cases (r : Reconciler) (i : Nat) :
    ((r.wakeLoop i).1 = r ∧
      ∀ l, r.loop? i = some l → l.stage = .finished ∨ ∃ plan, l.stage = .awaiting plan) ∨
    (∃ l, r.loop? i = some l ∧ l.stage = .fresh ∧
      (r.wakeLoop i).1.silent = (r.setStage i .settling).silent) ∨
    ∃ l, r.loop? i = some l ∧ l.stage.IsBetween ∧
      ((r.state.plan r.settings = none ∧
        (r.wakeLoop i).1.silent = (r.releaseLoop.setStage i .finished).silent) ∨
      ∃ plan, r.state.plan r.settings = some plan ∧
        (r.wakeLoop i).1.silent = (r.setStage i (.awaiting plan)).silent) := by
  cases found : r.loop? i with
  | none => exact .inl ⟨by simp only [wakeLoop, found], nofun⟩
  | some l =>
    cases stage : l.stage with
    | fresh => exact .inr (.inl ⟨l, rfl, stage, by simp only [wakeLoop, found, stage]; rfl⟩)
    | settling =>
      exact .inr (.inr ⟨l, rfl, .inl stage, wakeLoop_of_between found (.inl stage)⟩)
    | resting =>
      exact .inr (.inr ⟨l, rfl, .inr stage, wakeLoop_of_between found (.inr stage)⟩)
    | awaiting plan =>
      refine .inl ⟨by simp only [wakeLoop, found, stage], fun l' same => .inr ⟨plan, ?_⟩⟩
      cases same
      exact stage
    | finished =>
      refine .inl ⟨by simp only [wakeLoop, found, stage], fun l' same => .inl ?_⟩
      cases same
      exact stage

theorem unclaimed_wakeLoop (r : Reconciler) (i : Nat) :
    (r.wakeLoop i).1.state.unclaimed = r.state.unclaimed := by
  rcases r.wakeLoop_cases i with
    ⟨same, -⟩ | ⟨l, -, -, woken⟩ | ⟨l, -, -, ⟨-, woken⟩ | ⟨_, -, woken⟩⟩
  · rw [same]
  · rw [state_of_silent woken]
    rfl
  · rw [state_of_silent woken]
    rfl
  · rw [state_of_silent woken]
    rfl

theorem setup_wakeLoop (r : Reconciler) (i : Nat) : (r.wakeLoop i).1.setup = r.setup := by
  rcases r.wakeLoop_cases i with
    ⟨same, -⟩ | ⟨l, -, -, woken⟩ | ⟨l, -, -, ⟨-, woken⟩ | ⟨_, -, woken⟩⟩
  · rw [same]
  · rw [setup_of_silent woken]
    rfl
  · rw [setup_of_silent woken]
    rfl
  · rw [setup_of_silent woken]
    rfl

theorem settings_wakeLoop (r : Reconciler) (i : Nat) :
    (r.wakeLoop i).1.settings = r.settings :=
  congrArg Prod.fst (r.setup_wakeLoop i)

/-- Waking a loop does not concern the requests of others. -/
theorem awaited_wakeLoop_of_ne {i j : Nat} (other : j ≠ i) (r : Reconciler) :
    (r.wakeLoop i).1.awaited j = r.awaited j := by
  rcases r.wakeLoop_cases i with
    ⟨same, -⟩ | ⟨l, -, -, woken⟩ | ⟨l, -, -, ⟨-, woken⟩ | ⟨_, -, woken⟩⟩
  · rw [same]
  · rw [awaited_of_silent woken, awaited_setStage, if_neg other]
  · rw [awaited_of_silent woken, awaited_setStage, if_neg other]
    rfl
  · rw [awaited_of_silent woken, awaited_setStage, if_neg other]

/-- The request of a loop that was woken was under way already, or is the one planned just now. -/
theorem awaited_wakeLoop_self (r : Reconciler) (i : Nat) :
    (r.wakeLoop i).1.awaited i = r.awaited i ∨
      r.awaited i = none ∧ (r.wakeLoop i).1.awaited i = r.state.plan r.settings := by
  rcases r.wakeLoop_cases i with ⟨same, -⟩ | ⟨l, found, fresh, woken⟩ | ⟨l, found, between, went⟩
  · exact .inl (by rw [same])
  · refine .inl ?_
    rw [awaited_of_silent woken, awaited_setStage_of_none r i i rfl, if_pos rfl, awaited, found]
    simp only [Option.bind_some, fresh, Stage.plan?]
  · have nothing : r.awaited i = none := by
      rw [awaited, found]
      exact between.waiting
    refine .inr ⟨nothing, ?_⟩
    rcases went with ⟨idle, woken⟩ | ⟨plan, planned, woken⟩
    · rw [awaited_of_silent woken, awaited_setStage_of_none _ i i rfl, if_pos rfl, idle]
    · rw [awaited_of_silent woken, awaited_setStage, if_pos rfl, found, planned]
      rfl

/-- A loop ends with a step that fails. -/
theorem silent_advanceLoop_failed {r : Reconciler} {i : Nat} {l : Loop}
    (found : r.loop? i = some l) (step : Step) :
    (r.advanceLoop i (.failed step)).1.silent = (r.releaseLoop.setStage i .finished).silent := by
  simp only [advanceLoop, found]
  rfl

theorem setStage_modifyLoop (r : Reconciler) (i n : Nat) (stage : Stage) :
    (r.modifyLoop i fun l => { l with completed := n }).setStage i stage =
      r.modifyLoop i fun l => { l with completed := n, stage } := by
  simp only [setStage, modifyLoop, List.map_map, Reconciler.mk.injEq, true_and, and_true]
  apply List.map_congr_left
  intro l _
  by_cases here : l.id = i
  · simp [here]
  · simp [here]

/-- A loop that completed a step rests, unless it may make no more. -/
theorem silent_advanceLoop_completed {r : Reconciler} {i : Nat} {l : Loop}
    (found : r.loop? i = some l) (step : Step) :
    (r.advanceLoop i (.completed step)).1.silent =
      if r.settings.maxSteps ≤ l.completed + 1 then
        (r.releaseLoop.modifyLoop i fun l' =>
          { l' with completed := l.completed + 1, stage := .finished }).silent
      else
        (r.modifyLoop i fun l' =>
          { l' with completed := l.completed + 1, stage := .resting }).silent := by
  let t := r.modifyLoop i fun l' => { l' with completed := l.completed + 1 }
  simp only [advanceLoop, found]
  by_cases last : r.settings.maxSteps ≤ l.completed + 1
  · have counted : t.settings.maxSteps ≤ l.completed + 1 := last
    rw [if_pos last, if_pos counted, ← setStage_modifyLoop]
    rfl
  · have counted : ¬ t.settings.maxSteps ≤ l.completed + 1 := last
    rw [if_neg last, if_neg counted, ← setStage_modifyLoop]

/-- After a step the running loop rests, or it gives up its claim and is finished, because the step
failed or was the last one that it may make. -/
theorem advanceLoop_cases {r : Reconciler} {i : Nat} {l : Loop} (found : r.loop? i = some l)
    {step : Step} {outcome : Outcome} (made : outcome.IsOf step) :
    (∃ f : Loop → Loop, (∀ l, (f l).id = l.id ∧ (f l).stage = .finished) ∧
      (r.advanceLoop i outcome).1.silent = (r.releaseLoop.modifyLoop i f).silent ∧
      (outcome = .failed step ∨
        outcome = .completed step ∧ r.settings.maxSteps ≤ l.completed + 1)) ∨
    ∃ f : Loop → Loop, (∀ l, (f l).id = l.id ∧ (f l).stage = .resting) ∧
      (r.advanceLoop i outcome).1.silent = (r.modifyLoop i f).silent := by
  rcases made with rfl | rfl
  · exact .inl ⟨fun l => { l with stage := .finished }, fun _ => ⟨rfl, rfl⟩,
      silent_advanceLoop_failed found step, .inl rfl⟩
  · have advanced := silent_advanceLoop_completed found step
    by_cases last : r.settings.maxSteps ≤ l.completed + 1
    · rw [if_pos last] at advanced
      exact .inl ⟨fun l' => { l' with completed := l.completed + 1, stage := .finished },
        fun _ => ⟨rfl, rfl⟩, advanced, .inr ⟨rfl, last⟩⟩
    · rw [if_neg last] at advanced
      exact .inr ⟨fun l' => { l' with completed := l.completed + 1, stage := .resting },
        fun _ => ⟨rfl, rfl⟩, advanced⟩

section

variable {r : Reconciler} {i : Nat} {l : Loop} {step : Step} {outcome : Outcome}

theorem unclaimed_advanceLoop (found : r.loop? i = some l) (made : outcome.IsOf step) :
    (r.advanceLoop i outcome).1.state.unclaimed = r.state.unclaimed := by
  rcases advanceLoop_cases found made with ⟨f, -, advanced, -⟩ | ⟨f, -, advanced⟩
  · rw [state_of_silent advanced]
    rfl
  · rw [state_of_silent advanced]
    rfl

theorem setup_advanceLoop (found : r.loop? i = some l) (made : outcome.IsOf step) :
    (r.advanceLoop i outcome).1.setup = r.setup := by
  rcases advanceLoop_cases found made with ⟨f, -, advanced, -⟩ | ⟨f, -, advanced⟩
  · rw [setup_of_silent advanced]
    rfl
  · rw [setup_of_silent advanced]
    rfl

theorem settings_advanceLoop (found : r.loop? i = some l) (made : outcome.IsOf step) :
    (r.advanceLoop i outcome).1.settings = r.settings :=
  congrArg Prod.fst (setup_advanceLoop found made)

theorem awaited_advanceLoop (found : r.loop? i = some l) (made : outcome.IsOf step) (j : Nat) :
    (r.advanceLoop i outcome).1.awaited j = if j = i then none else r.awaited j := by
  rcases advanceLoop_cases found made with ⟨f, kept, advanced, -⟩ | ⟨f, kept, advanced⟩
  · rw [awaited_of_silent advanced]
    refine awaited_modifyLoop_of_none r.releaseLoop i j fun l => ⟨(kept l).1, ?_⟩
    rw [(kept l).2]
    rfl
  · rw [awaited_of_silent advanced]
    refine awaited_modifyLoop_of_none r i j fun l => ⟨(kept l).1, ?_⟩
    rw [(kept l).2]
    rfl

end


end LightSync.Reconciler
