import LightSync.Proofs.Operations
import LightSync.Proofs.Run

/-!
# Reconcilers being driven

A reconciler is driven by hands and by its loops. Each driver makes one step at a time; while its
request is under way, changes are made and other drivers go on, in any order and with any answers.
A run is a list of events, and this is everything that an event does to the state: it makes a
change, or takes in the answer to a planned request.

## Main definitions

- `Driver`, `Scene`, `Scene.Event`, `Scene.next`
- `Scene.underway`: the step of a driver whose request is under way
- `Scene.settled`: what an event makes of the state
- `Scene.OneAtATime`: no step begins while another one is under way
-/

namespace LightSync.Reconciler

open Bridge

/-- Who carries out steps. -/
inductive Driver where
  /-- Somebody who makes steps by hand. -/
  | hand (n : Nat)
  /-- The loop with an id. -/
  | loop (id : Nat)
deriving DecidableEq

/-- A reconciler, with the steps made by hand whose requests are under way. -/
structure Scene where
  sync : Reconciler
  hands : Nat → Option Plan

namespace Scene

/-- A reconciler that knows nothing of its bridge, before anybody drives it. -/
def new (settings : SyncSettings) (wording : Wording) : Scene :=
  ⟨.new settings wording, fun _ => none⟩

abbrev state (s : Scene) : State := s.sync.state

def setHand (s : Scene) (n : Nat) (step : Option Plan) : Scene :=
  { s with hands := fun m => if m = n then step else s.hands m }

/-- The step of a driver whose request is under way. -/
def underway (s : Scene) : Driver → Option Plan
  | .hand n => s.hands n
  | .loop id => s.sync.awaited id

inductive Event where
  /-- A change is made, where loops can run or cannot. -/
  | change (canRun : Bool) (c : Change)
  /-- A driver that waits for no answer goes on: it begins a step, or finds nothing to do. -/
  | go (d : Driver)
  /-- The answer to a driver's request arrives; whoever hears that the managed groups were loaded
  makes some changes. -/
  | answer (d : Driver) (answer : Answer) (canRun : Bool) (heard : List Change)

def next (s : Scene) : Event → Scene
  | .change canRun c => { s with sync := s.sync.change canRun c }
  | .go (.hand n) =>
    match s.hands n with
    | some _ => s
    | none =>
      match s.sync.begin false with
      | (r, none) => { s with sync := r }
      | (r, some plan) => { s with sync := r.announce plan }.setHand n (some plan)
  | .go (.loop id) => { s with sync := (s.sync.wakeLoop id).1 }
  | .answer d answer canRun heard =>
    match s.underway d with
    | none => s
    | some plan =>
      let taken := s.sync.conclude plan answer canRun heard
      match d with
      | .hand n => { s with sync := taken.1 }.setHand n none
      | .loop id => { s with sync := (taken.1.advanceLoop id taken.2).1 }

abbrev run (s : Scene) (events : List Event) : Scene := Run.after next s events

/-- A step begins only if no other one is under way. -/
def OneAtATime (s : Scene) (e : Event) : Prop :=
  ∀ d, e = .go d → (s.next e).underway d ≠ none → ∀ other, s.underway other ≠ none → other = d

/-- What an event makes of the state: it makes a change, or takes in an answer. -/
def settled (s : Scene) : Event → State
  | .change _ c => (s.state.change c).1
  | .go _ => s.state
  | .answer d answer _ heard =>
    match s.underway d with
    | none => s.state
    | some plan => s.state.take s.sync.settings plan answer heard

/-! ## What an event does -/

variable (s : Scene)

theorem underway_setHand (n : Nat) (step : Option Plan) (d : Driver) :
    (s.setHand n step).underway d = if d = .hand n then step else s.underway d := by
  cases d with
  | hand m => simp [setHand, underway]
  | loop id => simp [setHand, underway]

/-- Somebody who goes on by hand does nothing, or announces the step planned just now. -/
theorem next_go_hand (n : Nat) :
    (s.next (.go (.hand n)) = s ∧ (s.hands n ≠ none ∨ s.state.plan s.sync.settings = none)) ∨
    ∃ plan, s.hands n = none ∧ s.state.plan s.sync.settings = some plan ∧
      s.next (.go (.hand n)) = { s with sync := s.sync.announce plan }.setHand n (some plan) := by
  cases waiting : s.hands n with
  | some plan => exact .inl ⟨by simp only [next, waiting], .inl nofun⟩
  | none =>
    cases planned : s.state.plan s.sync.settings with
    | none => exact .inl ⟨by simp only [next, waiting, begin, planned]; rfl, .inr rfl⟩
    | some plan => exact .inr ⟨plan, rfl, rfl, by simp only [next, waiting, begin, planned]⟩

theorem next_answer_of_none {d : Driver} (nothing : s.underway d = none) (answer : Answer)
    (canRun : Bool) (heard : List Change) : s.next (.answer d answer canRun heard) = s := by
  simp only [next, nothing]

theorem next_answer_hand {n : Nat} {plan : Plan} (waiting : s.hands n = some plan)
    (answer : Answer) (canRun : Bool) (heard : List Change) :
    s.next (.answer (.hand n) answer canRun heard) =
      { s with sync := (s.sync.conclude plan answer canRun heard).1 }.setHand n none := by
  simp only [next, underway, waiting]

theorem next_answer_loop {id : Nat} {plan : Plan} (waiting : s.sync.awaited id = some plan)
    (answer : Answer) (canRun : Bool) (heard : List Change) :
    let taken := s.sync.conclude plan answer canRun heard
    ∃ l, taken.1.loop? id = some l ∧ l.stage = .awaiting plan ∧
      s.next (.answer (.loop id) answer canRun heard) =
        { s with sync := (taken.1.advanceLoop id taken.2).1 } := by
  intro taken
  have still := (awaited_conclude s.sync plan answer canRun heard id).trans waiting
  obtain ⟨l, found, stage⟩ := loop?_of_awaited still
  exact ⟨l, found, stage, by simp only [next, underway, waiting, taken]⟩

/-- The claim of a loop apart, every event does to the state what `settled` says. -/
theorem unclaimed_next (e : Event) : (s.next e).state.unclaimed = (s.settled e).unclaimed := by
  cases e with
  | change canRun c => exact unclaimed_change s.sync canRun c
  | go d =>
    cases d with
    | hand n =>
      rcases s.next_go_hand n with ⟨same, -⟩ | ⟨plan, -, -, going⟩
      · rw [same]
        rfl
      · rw [going]
        exact congrArg State.unclaimed (state_of_silent (silent_announce s.sync plan))
    | loop id => exact unclaimed_wakeLoop s.sync id
  | answer d answer canRun heard =>
    cases waiting : s.underway d with
    | none => rw [next_answer_of_none s waiting, settled, waiting]
    | some plan =>
      simp only [settled, waiting]
      rw [← unclaimed_conclude s.sync plan answer canRun heard]
      cases d with
      | hand n =>
        rw [next_answer_hand s waiting]
        rfl
      | loop id =>
        obtain ⟨l, found, -, advanced⟩ := next_answer_loop s waiting answer canRun heard
        rw [advanced]
        exact unclaimed_advanceLoop found (conclude_outcome s.sync plan answer canRun heard)

theorem setup_next (e : Event) : (s.next e).sync.setup = s.sync.setup := by
  cases e with
  | change canRun c => exact setup_change s.sync canRun c
  | go d =>
    cases d with
    | hand n =>
      rcases s.next_go_hand n with ⟨same, -⟩ | ⟨plan, -, -, going⟩
      · rw [same]
      · rw [going]
        exact setup_of_silent (silent_announce s.sync plan)
    | loop id => exact setup_wakeLoop s.sync id
  | answer d answer canRun heard =>
    cases waiting : s.underway d with
    | none => rw [next_answer_of_none s waiting]
    | some plan =>
      rw [← setup_conclude s.sync plan answer canRun heard]
      cases d with
      | hand n =>
        rw [next_answer_hand s waiting]
        rfl
      | loop id =>
        obtain ⟨l, found, -, advanced⟩ := next_answer_loop s waiting answer canRun heard
        rw [advanced]
        exact setup_advanceLoop found (conclude_outcome s.sync plan answer canRun heard)

theorem settings_next (e : Event) : (s.next e).sync.settings = s.sync.settings :=
  congrArg Prod.fst (s.setup_next e)

/-! ## Requests under way -/

theorem underway_change (canRun : Bool) (c : Change) (d : Driver) :
    (s.next (.change canRun c)).underway d = s.underway d := by
  cases d with
  | hand n => rfl
  | loop id => exact awaited_change s.sync canRun c id

/-- Whoever goes on does not concern the requests of others. -/
theorem underway_go_of_ne {d other : Driver} (differ : other ≠ d) :
    (s.next (.go d)).underway other = s.underway other := by
  cases d with
  | hand n =>
    rcases s.next_go_hand n with ⟨same, -⟩ | ⟨plan, -, -, going⟩
    · rw [same]
    · rw [going, underway_setHand, if_neg differ]
      cases other with
      | hand m => rfl
      | loop id => exact awaited_of_silent (silent_announce s.sync plan) id
  | loop id =>
    cases other with
    | hand m => rfl
    | loop j => exact awaited_wakeLoop_of_ne (fun same => differ (congrArg Driver.loop same)) s.sync

/-- The request of a driver that went on was under way already, or is the one planned just now. -/
theorem underway_go_self (d : Driver) :
    (s.next (.go d)).underway d = s.underway d ∨
      s.underway d = none ∧ (s.next (.go d)).underway d = s.state.plan s.sync.settings := by
  cases d with
  | hand n =>
    rcases s.next_go_hand n with ⟨same, -⟩ | ⟨plan, nothing, planned, going⟩
    · exact .inl (by rw [same])
    · refine .inr ⟨nothing, ?_⟩
      rw [going, underway_setHand, if_pos rfl, planned]
  | loop id => exact awaited_wakeLoop_self s.sync id

/-- An answer ends the request that it answers, and no other. -/
theorem underway_answer (d other : Driver) (answer : Answer) (canRun : Bool)
    (heard : List Change) :
    (s.next (.answer d answer canRun heard)).underway other =
      if other = d then none else s.underway other := by
  cases waiting : s.underway d with
  | none =>
    rw [next_answer_of_none s waiting]
    by_cases same : other = d
    · rw [if_pos same, same, waiting]
    · rw [if_neg same]
  | some plan =>
    have kept := awaited_conclude s.sync plan answer canRun heard
    cases d with
    | hand n =>
      rw [next_answer_hand s waiting, underway_setHand]
      cases other with
      | hand m => rfl
      | loop id => simpa [underway] using kept id
    | loop id =>
      obtain ⟨l, found, -, advanced⟩ := next_answer_loop s waiting answer canRun heard
      rw [advanced]
      cases other with
      | hand m => rfl
      | loop j =>
        simp only [underway, Driver.loop.injEq]
        rw [awaited_advanceLoop found (conclude_outcome s.sync plan answer canRun heard) j, kept j]

/-! ## A single driver -/

/-- Nobody else than one driver has a request under way. -/
def OnlyDriver (d : Driver) (s : Scene) : Prop := ∀ other, s.underway other ≠ none → other = d

theorem onlyDriver_next {d : Driver} {s : Scene} {e : Event} (h : s.OnlyDriver d)
    (mine : ∀ d', e = .go d' → d' = d) : (s.next e).OnlyDriver d := by
  intro other busy
  cases e with
  | change canRun c =>
    rw [underway_change] at busy
    exact h other busy
  | go d' =>
    by_cases here : other = d'
    · exact here.trans (mine d' rfl)
    · rw [underway_go_of_ne s here] at busy
      exact h other busy
  | answer d' answer canRun heard =>
    rw [underway_answer] at busy
    split at busy
    · exact absurd rfl busy
    · exact h other busy

/-- A single driver makes one step at a time. -/
theorem admitted_of_onlyDriver {d : Driver} {s : Scene} {events : List Event}
    (h : s.OnlyDriver d) (mine : ∀ d', .go d' ∈ events → d' = d) :
    Run.Admitted next OneAtATime s events := by
  induction events generalizing s with
  | nil => trivial
  | cons e rest ih =>
    have here (d' : Driver) (same : e = .go d') : d' = d := mine d' (same ▸ List.mem_cons_self ..)
    refine ⟨?_, ?_⟩
    · intro d' same _ other busy
      exact (h other busy).trans (here d' same).symm
    · exact ih (onlyDriver_next h here) fun d' mem => mine d' (List.mem_cons_of_mem _ mem)

theorem onlyDriver_new (settings : SyncSettings) (wording : Wording) (d : Driver) :
    (new settings wording).OnlyDriver d := by
  intro other busy
  cases other <;> exact absurd rfl busy

end Scene

end LightSync.Reconciler
