import LightSync.Proofs.Correspondence
import LightSync.Proofs.LoopStages
import LightSync.Proofs.LoopStarts

/-!
# Requests are paced

A reconciler is driven by its loops alone, on a clock. Changes are made and answers arrive at any
time; a loop that waits some milliseconds goes on when these have passed, or later. Then a loop
makes no request before changes had the time to settle, and between any two requests there is a
pause, whichever loops make them: while one loop runs all others are finished, and a loop that
follows another one has to settle first.

## Main definitions

- `Clocked`, `Clocked.next`: a reconciler on a clock, and what happens to it
- `Clocked.Timely`: only loops make steps, and none goes on before its pause is over
- `Clocked.starts`, `Clocked.requests`: when loops are started, and when they make requests
- `Clocked.Stands`, `Clocked.OnTime`: where one loop stands with the clock, and where all do

## Main results

- `Clocked.onTime_next`: every event keeps the loops on time
- `Clocked.requests_are_paced`: when loops make requests, and how many
-/

namespace LightSync

theorem Bridge.ExchangeLog.requests_recordAll (l : ExchangeLog) (messages : List Message)
    (failures : List String) :
    (l.recordAll messages failures).requests = l.requests + messages.countP (·.isRequest) := by
  have recorded : (messages.foldl ExchangeLog.record l).requests =
      l.requests + messages.countP (·.isRequest) := by
    induction messages generalizing l with
    | nil => rfl
    | cons m rest ih =>
      rw [List.foldl_cons, ih]
      cases m with
      | request r =>
        simp only [record, sent, requests_push, Message.isRequest, List.countP_cons_of_pos]
        omega
      | response r got =>
        simp [record, received, Message.isRequest]
  unfold recordAll
  generalize messages.foldl ExchangeLog.record l = m at recorded ⊢
  induction failures generalizing m with
  | nil => exact recorded
  | cons f rest ih => exact ih (m.recordError f) recorded

namespace Reconciler

open Bridge

/-- A moment in the life of a loop. -/
structure Moment where
  time : Nat
  loop : Nat
deriving DecidableEq

/-- What a loop waits for after an event in which it goes on. -/
def Scene.waitAfter (s : Scene) : Scene.Event → Option (Nat × Wait)
  | .go (.loop id) => some (id, (s.sync.wakeLoop id).2)
  | .answer (.loop id) answer canRun heard =>
    (s.sync.awaited id).map fun plan =>
      let taken := s.sync.conclude plan answer canRun heard
      (id, (taken.1.advanceLoop id taken.2).2)
  | _ => none

/-- A reconciler on a clock. -/
structure Clocked where
  scene : Scene
  /-- Ticks of the clock since the start. -/
  now : Nat
  /-- The time until which each loop pauses. -/
  rests : Nat → Nat

namespace Clocked

/-- A reconciler that knows nothing of its bridge, when the clock is started. -/
def new (settings : SyncSettings) (wording : Wording) : Clocked :=
  ⟨.new settings wording, 0, fun _ => 0⟩

abbrev sync (c : Clocked) : Reconciler := c.scene.sync

inductive Event where
  | pass (ticks : Nat)
  | scene (e : Scene.Event)

/-- The time until which a loop pauses after an event. -/
def restsAfter (perMs : Nat) (c : Clocked) (e : Scene.Event) (j : Nat) : Nat :=
  match c.scene.waitAfter e with
  | some (id, .pause ms) => if j = id then c.now + perMs * ms else c.rests j
  | _ => c.rests j

/-- What happens where the clock ticks `perMs` times in a millisecond. -/
def next (perMs : Nat) (c : Clocked) : Event → Clocked
  | .pass ticks => { c with now := c.now + ticks }
  | .scene e => { c with scene := c.scene.next e, rests := c.restsAfter perMs e }

abbrev run (perMs : Nat) (c : Clocked) (events : List Event) : Clocked :=
  Run.after (next perMs) c events

/-- Only loops make steps, and none goes on before its pause is over. Where changes are made, loops
may be able to run or not. -/
def Timely (c : Clocked) : Event → Prop
  | .scene (.go (.loop id)) => c.rests id ≤ c.now
  | .scene (.go (.hand _)) => False
  | .scene (.answer (.hand _) ..) => False
  | _ => True

/-- The loops that are started in an event. -/
def startsIn (c : Clocked) : Event → List Moment
  | .pass _ => []
  | .scene e =>
    ((c.scene.next e).sync.loops.drop c.sync.loops.length).map fun l => ⟨c.now, l.id⟩

/-- The request that a loop makes in an event. -/
def requestsIn (c : Clocked) : Event → List Moment
  | .scene (.go (.loop id)) =>
    if c.scene.underway (.loop id) = none ∧
      (c.scene.next (.go (.loop id))).underway (.loop id) ≠ none then [⟨c.now, id⟩] else []
  | _ => []

/-- The loops that are started in a run. -/
def starts (perMs : Nat) (c : Clocked) : List Event → List Moment
  | [] => []
  | e :: events => c.startsIn e ++ starts perMs (c.next perMs e) events

/-- The requests that are made in a run. -/
def requests (perMs : Nat) (c : Clocked) : List Event → List Moment
  | [] => []
  | e :: events => c.requestsIn e ++ requests perMs (c.next perMs e) events

/-! ## Where loops stand -/

/-- Where a loop stands with the clock at a time, given the time until which it pauses, and when
loops were started and made requests. -/
inductive Stands (settings : SyncSettings) (perMs now rest : Nat) (starts requests : List Moment)
    (id : Nat) : Option Loop → Prop where
  | unknown (made : requests.countP (·.loop = id) = 0) (never : ∀ m ∈ starts, m.loop ≠ id) :
    Stands settings perMs now rest starts requests id none
  | fresh (made : requests.countP (·.loop = id) = 0) :
    Stands settings perMs now rest starts requests id (some ⟨id, 0, .fresh⟩)
  | settling (made : requests.countP (·.loop = id) = 0)
    (settled : ∀ m ∈ starts, m.loop = id → m.time + perMs * settings.settleDelayMs ≤ rest)
    (spaced : ∀ m ∈ requests, m.time + perMs * settings.settleDelayMs ≤ rest) :
    Stands settings perMs now rest starts requests id (some ⟨id, 0, .settling⟩)
  | awaiting (completed : Nat) (plan : Plan)
    (made : requests.countP (·.loop = id) = completed + 1)
    (few : completed + 1 ≤ max 1 settings.maxSteps)
    (settled : ∀ m ∈ starts, m.loop = id → m.time + perMs * settings.settleDelayMs ≤ now) :
    Stands settings perMs now rest starts requests id (some ⟨id, completed, .awaiting plan⟩)
  | resting (completed : Nat) (made : requests.countP (·.loop = id) = completed)
    (few : completed + 1 ≤ settings.maxSteps)
    (settled : ∀ m ∈ starts, m.loop = id → m.time + perMs * settings.settleDelayMs ≤ now)
    (spaced : ∀ m ∈ requests, m.time + perMs * settings.stepIntervalMs ≤ rest) :
    Stands settings perMs now rest starts requests id (some ⟨id, completed, .resting⟩)
  | finished (completed : Nat) (few : requests.countP (·.loop = id) ≤ max 1 settings.maxSteps) :
    Stands settings perMs now rest starts requests id (some ⟨id, completed, .finished⟩)

/-- The loops are on time, given when they were started and made requests. -/
structure OnTime (perMs : Nat) (c : Clocked) (starts requests : List Moment) : Prop where
  claimed : Claimed c.sync
  started : ∀ m ∈ starts, m.time ≤ c.now
  requested : ∀ m ∈ requests, m.time ≤ c.now
  known : ∀ id l, c.sync.loop? id = some l → ∃ m ∈ starts, m.loop = id
  settled : ∀ start ∈ starts, ∀ request ∈ requests, request.loop = start.loop →
    start.time + perMs * c.sync.settings.settleDelayMs ≤ request.time
  spaced : requests.Pairwise fun first second => first.time +
    perMs * min c.sync.settings.settleDelayMs c.sync.settings.stepIntervalMs ≤ second.time
  stands : ∀ id, Stands c.sync.settings perMs c.now (c.rests id) starts requests id
    (c.sync.loop? id)

section Stands

variable {settings : SyncSettings} {perMs now rest : Nat} {starts requests : List Moment} {id : Nat}
  {o : Option Loop}

/-- Time that passes keeps a loop where it stands. -/
theorem Stands.pass (h : Stands settings perMs now rest starts requests id o) {later : Nat}
    (after : now ≤ later) : Stands settings perMs later rest starts requests id o := by
  cases h with
  | unknown made never => exact .unknown made never
  | fresh made => exact .fresh made
  | settling made settled spaced => exact .settling made settled spaced
  | awaiting completed plan made few settled =>
    refine .awaiting completed plan made few fun m mem mine => ?_
    exact Nat.le_trans (settled m mem mine) after
  | resting completed made few settled spaced =>
    refine .resting completed made few (fun m mem mine => ?_) spaced
    exact Nat.le_trans (settled m mem mine) after
  | finished completed few => exact .finished completed few

/-- The start of another loop keeps a loop where it stands. -/
theorem Stands.start (h : Stands settings perMs now rest starts requests id o) {start : Moment}
    (other : start.loop ≠ id) :
    Stands settings perMs now rest (starts ++ [start]) requests id o := by
  have mem_of {m : Moment} (mem : m ∈ starts ++ [start]) (mine : m.loop = id) : m ∈ starts := by
    rcases List.mem_append.1 mem with old | new
    · exact old
    · cases List.mem_singleton.1 new
      exact absurd mine other
  cases h with
  | unknown made never => exact .unknown made fun m mem mine => never m (mem_of mem mine) mine
  | fresh made => exact .fresh made
  | settling made settled spaced =>
    exact .settling made (fun m mem mine => settled m (mem_of mem mine) mine) spaced
  | awaiting completed plan made few settled =>
    exact .awaiting completed plan made few fun m mem mine => settled m (mem_of mem mine) mine
  | resting completed made few settled spaced =>
    refine .resting completed made few (fun m mem mine => ?_) spaced
    exact settled m (mem_of mem mine) mine
  | finished completed few => exact .finished completed few

/-- A request of another loop keeps a loop where it stands that does not run. -/
theorem Stands.request (h : Stands settings perMs now rest starts requests id o)
    (idle : ∀ l, o = some l → l.stage = .finished) {request : Moment} (other : request.loop ≠ id) :
    Stands settings perMs now rest starts (requests ++ [request]) id o := by
  have count : (requests ++ [request]).countP (·.loop = id) = requests.countP (·.loop = id) := by
    simp [List.countP_append, other]
  cases h with
  | unknown made never => exact .unknown (count.trans made) never
  | finished completed few => exact .finished completed (count ▸ few)
  | _ => exact nomatch idle _ rfl

/-- A loop makes at most as many requests as it may, or one if it may make none. -/
theorem Stands.few (h : Stands settings perMs now rest starts requests id o) :
    requests.countP (·.loop = id) ≤ max 1 settings.maxSteps := by
  cases h with
  | unknown made => omega
  | fresh made => omega
  | settling made => omega
  | awaiting completed plan made few => exact made ▸ few
  | resting completed made few => omega
  | finished completed few => exact few

end Stands

/-! ## What events do to loops that are on time -/

variable {perMs : Nat} {c d : Clocked} {starts requests : List Moment} {id : Nat}

/-- A request is made in an event, long enough after the start of its loop and after all other
requests; or none is made. -/
def Asks (perMs : Nat) (c : Clocked) (starts requests : List Moment) (id : Nat)
    (more : List Moment) : Prop :=
  more = [] ∨ more = [⟨c.now, id⟩] ∧
    (∀ m ∈ starts, m.loop = id → m.time + perMs * c.sync.settings.settleDelayMs ≤ c.now) ∧
    ∀ m ∈ requests, m.time +
      perMs * min c.sync.settings.settleDelayMs c.sync.settings.stepIntervalMs ≤ c.now

/-- A request is one of those made before, or it is made now. -/
theorem Asks.mem_cases {more : List Moment} (asks : c.Asks perMs starts requests id more)
    {m : Moment} (mem : m ∈ requests ++ more) :
    m ∈ requests ∨ m = ⟨c.now, id⟩ ∧ ∀ start ∈ starts, start.loop = id →
      start.time + perMs * c.sync.settings.settleDelayMs ≤ c.now := by
  rcases asks with rfl | ⟨rfl, settled, -⟩
  · exact .inl (by simpa using mem)
  · rcases List.mem_append.1 mem with old | new
    · exact .inl old
    · exact .inr ⟨List.mem_singleton.1 new, settled⟩

theorem Asks.spaced {more : List Moment} (asks : c.Asks perMs starts requests id more)
    (before : requests.Pairwise fun first second => first.time +
      perMs * min c.sync.settings.settleDelayMs c.sync.settings.stepIntervalMs ≤ second.time) :
    (requests ++ more).Pairwise fun first second => first.time +
      perMs * min c.sync.settings.settleDelayMs c.sync.settings.stepIntervalMs ≤ second.time := by
  rcases asks with rfl | ⟨rfl, -, spaced⟩
  · rw [List.append_nil]
    exact before
  · refine List.pairwise_append.2 ⟨before, List.pairwise_singleton .., ?_⟩
    intro m mem m' mem'
    cases List.mem_singleton.1 mem'
    exact spaced m mem

/-- A request of one loop keeps the others where they stand: they are finished while it runs. -/
theorem OnTime.stands_of_asks (h : OnTime perMs c starts requests) {l : Loop}
    (found : c.sync.loop? id = some l) (running : l.stage ≠ .finished) {more : List Moment}
    (asks : c.Asks perMs starts requests id more) {j : Nat} (other : j ≠ id) :
    Stands c.sync.settings perMs c.now (c.rests j) starts (requests ++ more) j
      (c.sync.loop? j) := by
  rcases asks with rfl | ⟨rfl, -⟩
  · rw [List.append_nil]
    exact h.stands j
  · have idle (m : Loop) (there : c.sync.loop? j = some m) : m.stage = .finished :=
      h.claimed.finished_of_ne found running there other
    exact (h.stands j).request idle other.symm

/-- Loops stay on time where one of them is moved. -/
theorem OnTime.move (h : OnTime perMs c starts requests) (moves : Moves id c.sync d.sync)
    (claimed : Claimed d.sync) (settings : d.sync.settings = c.sync.settings)
    (clock : d.now = c.now) (rests : ∀ j, j ≠ id → d.rests j = c.rests j) {more : List Moment}
    (asks : c.Asks perMs starts requests id more)
    (here : Stands c.sync.settings perMs c.now (d.rests id) starts (requests ++ more) id
      (d.sync.loop? id)) :
    OnTime perMs d starts (requests ++ more) := by
  obtain ⟨l, found, running⟩ := moves.running
  refine ⟨claimed, clock ▸ h.started, fun m mem => ?_, fun j m there => ?_, ?_,
    settings ▸ asks.spaced h.spaced, fun j => ?_⟩
  · rw [clock]
    rcases asks.mem_cases mem with old | ⟨rfl, -⟩
    · exact h.requested m old
    · exact Nat.le_refl _
  · by_cases same : j = id
    · exact h.known j l (same ▸ found)
    · exact h.known j m (moves.loop?_of_ne same ▸ there)
  · rw [settings]
    intro start mem request mem' mine
    rcases asks.mem_cases mem' with old | ⟨rfl, settled⟩
    · exact h.settled start mem request old mine
    · exact settled start mem mine.symm
  · rw [settings, clock]
    by_cases same : j = id
    · rw [same]
      exact here
    · rw [moves.loop?_of_ne same, rests j same]
      exact h.stands_of_asks found running asks same

/-- Loops stay on time where they stay as they are. -/
theorem OnTime.keep (h : OnTime perMs c starts requests) (claimed : Claimed d.sync)
    (settings : d.sync.settings = c.sync.settings) (after : c.now ≤ d.now)
    (rests : d.rests = c.rests) (loops : d.sync.loops = c.sync.loops) :
    OnTime perMs d starts requests := by
  have looks (j : Nat) : d.sync.loop? j = c.sync.loop? j := by rw [loop?, loops, loop?]
  refine ⟨claimed, fun m mem => Nat.le_trans (h.started m mem) after,
    fun m mem => Nat.le_trans (h.requested m mem) after, fun j l found => ?_,
    by rw [settings]; exact h.settled, by rw [settings]; exact h.spaced, fun j => ?_⟩
  · exact h.known j l (looks j ▸ found)
  · rw [settings, rests, looks]
    exact (h.stands j).pass after

/-- A loop that is started has made no request yet, and has to settle first. -/
theorem OnTime.start (h : OnTime perMs c starts requests) (claimed : Claimed d.sync)
    (settings : d.sync.settings = c.sync.settings) (clock : d.now = c.now)
    (rests : d.rests = c.rests)
    (loops : d.sync.loops = c.sync.loops ++ [⟨c.sync.started, 0, .fresh⟩]) :
    OnTime perMs d (starts ++ [⟨c.now, c.sync.started⟩]) requests := by
  have looks := h.claimed.loop?_of_started loops
  have unmade : requests.countP (·.loop = c.sync.started) = 0 := by
    have stands := h.stands c.sync.started
    rw [h.claimed.loop?_started] at stands
    cases stands with
    | unknown made never => exact made
  refine ⟨claimed, ?_, by rw [clock]; exact h.requested, ?_, ?_,
    by rw [settings]; exact h.spaced, ?_⟩
  · rw [clock]
    intro m mem
    rcases List.mem_append.1 mem with old | new
    · exact h.started m old
    · cases List.mem_singleton.1 new
      exact Nat.le_refl _
  · intro j l found
    rw [looks] at found
    split at found
    · next new => exact ⟨⟨c.now, c.sync.started⟩, by simp, new.symm⟩
    · obtain ⟨m, mem, mine⟩ := h.known j l found
      exact ⟨m, List.mem_append_left _ mem, mine⟩
  · rw [settings]
    intro start mem request mem' mine
    rcases List.mem_append.1 mem with old | new
    · exact h.settled start old request mem' mine
    · cases List.mem_singleton.1 new
      exact absurd mine (by simpa using List.countP_eq_zero.1 unmade request mem')
  · intro j
    rw [settings, clock, rests, looks]
    split
    · next new => exact .fresh (new ▸ unmade)
    · next old => exact (h.stands j).start fun same => old same.symm

section Scene

variable {e : Scene.Event}

theorem startsIn_of_length (same : (c.scene.next e).sync.loops.length = c.sync.loops.length) :
    c.startsIn (.scene e) = [] := by
  rw [startsIn, ← same, List.drop_length, List.map_nil]

/-- A change may start a loop. -/
theorem onTime_change (h : OnTime perMs c starts requests) (canRun : Bool) (change : Change) :
    let e : Scene.Event := .change canRun change
    OnTime perMs (c.next perMs (.scene e)) (starts ++ c.startsIn (.scene e)) requests := by
  intro e
  have claimed := Scene.claimed_next h.claimed e
  have settings := c.scene.settings_next e
  cases mayStart_change c.sync canRun change with
  | none loops latest started claim =>
    have same : (c.scene.next e).sync.loops.length = c.sync.loops.length :=
      congrArg List.length loops
    rw [startsIn_of_length same, List.append_nil]
    exact h.keep claimed settings (Nat.le_refl _) rfl loops
  | one free loops latest claim =>
    have one : c.startsIn (.scene e) = [⟨c.now, c.sync.started⟩] := by
      simp [startsIn, e, Scene.next, loops]
    rw [one]
    exact h.start claimed settings rfl rfl loops

/-- An event in which one loop goes on concerns the pause of no other one. -/
theorem rests_of_ne (mine : ∀ w, c.scene.waitAfter e = some w → w.1 = id) {j : Nat}
    (other : j ≠ id) : (c.next perMs (.scene e)).rests j = c.rests j := by
  simp only [next, restsAfter]
  split
  · next i ms waits =>
    obtain rfl : i = id := mine _ waits
    exact if_neg other
  · rfl

theorem rests_of_pause {ms : Nat} (waits : c.scene.waitAfter e = some (id, .pause ms)) :
    (c.next perMs (.scene e)).rests id = c.now + perMs * ms := by
  simp only [next, restsAfter, waits, if_true]

/-- Where no loop goes on to a pause, the pauses stay as they are. -/
theorem rests_of_no_pause (waits : ∀ i ms, c.scene.waitAfter e ≠ some (i, .pause ms)) :
    (c.next perMs (.scene e)).rests = c.rests := by
  funext j
  simp only [next, restsAfter]

end Scene

/-! ## A loop that is woken -/

theorem startsIn_go (c : Clocked) (id : Nat) : c.startsIn (.scene (.go (.loop id))) = [] := by
  apply startsIn_of_length
  rcases c.sync.wakeLoop_moves id with same | moves
  · exact congrArg (·.loops.length) same
  · exact moves.length_eq

theorem requestsIn_go (c : Clocked) (id : Nat) :
    c.requestsIn (.scene (.go (.loop id))) =
      if c.sync.awaited id = none ∧ (c.sync.wakeLoop id).1.awaited id ≠ none then [⟨c.now, id⟩]
      else [] := rfl

theorem awaited_of_found {r : Reconciler} {l : Loop} (found : r.loop? id = some l) :
    r.awaited id = l.stage.plan? := by
  rw [awaited, found]
  rfl

/-- A loop that is woken in vain stays on time. -/
theorem OnTime.wake_of_same (h : OnTime perMs c starts requests)
    (same : (c.sync.wakeLoop id).1 = c.sync) (waits : ∀ ms, (c.sync.wakeLoop id).2 ≠ .pause ms) :
    let e : Scene.Event := .go (.loop id)
    OnTime perMs (c.next perMs (.scene e)) starts (requests ++ c.requestsIn (.scene e)) := by
  intro e
  have nothing : c.requestsIn (.scene e) = [] := by
    rw [requestsIn_go, same, if_neg fun both => both.2 both.1]
  have rests : (c.next perMs (.scene e)).rests = c.rests := by
    refine rests_of_no_pause fun i ms here => ?_
    have pauses := (Option.some.inj here : (id, (c.sync.wakeLoop id).2) = (i, .pause ms))
    exact waits ms (Prod.mk.inj pauses).2
  rw [nothing, List.append_nil]
  refine h.keep (Scene.claimed_next h.claimed e) (c.scene.settings_next e) (Nat.le_refl _) rests ?_
  exact congrArg (·.loops) same

/-- A loop that moves when it is woken stays on time, if it stands on time where it then stands. -/
theorem OnTime.wake (h : OnTime perMs c starts requests) {n n' : Nat} {stage stage' : Stage}
    (before : LoopAt c.sync id n stage) (after : LoopAt (c.sync.wakeLoop id).1 id n' stage')
    (moved : stage ≠ stage') {more : List Moment} (asks : c.Asks perMs starts requests id more)
    (made : c.requestsIn (.scene (.go (.loop id))) = more)
    (here : Stands c.sync.settings perMs c.now
      ((c.next perMs (.scene (.go (.loop id)))).rests id) starts (requests ++ more) id
      (some ⟨id, n', stage'⟩)) :
    let e : Scene.Event := .go (.loop id)
    OnTime perMs (c.next perMs (.scene e)) starts (requests ++ c.requestsIn (.scene e)) := by
  intro e
  have moves : Moves id c.sync (c.sync.wakeLoop id).1 := by
    rcases c.sync.wakeLoop_moves id with same | moves
    · have found := after.found
      rw [same, before.found] at found
      cases found
      exact absurd rfl moved
    · exact moves
  have mine (w : Nat × Wait) (waits : c.scene.waitAfter e = some w) : w.1 = id := by
    cases waits
    rfl
  have others (j : Nat) (other : j ≠ id) : (c.next perMs (.scene e)).rests j = c.rests j :=
    rests_of_ne mine other
  rw [made]
  refine h.move (d := c.next perMs (.scene e)) moves after.claimed (c.scene.settings_next e) rfl
    others asks ?_
  have found : (c.next perMs (.scene e)).sync.loop? id = some ⟨id, n', stage'⟩ := after.found
  rw [found]
  exact here

/-- A loop between two steps that is woken makes a request or ends. -/
theorem OnTime.wake_of_between (h : OnTime perMs c starts requests) {n : Nat} {stage : Stage}
    (before : LoopAt c.sync id n stage) (between : stage.IsBetween)
    (made : requests.countP (·.loop = id) = n) (few : n + 1 ≤ max 1 c.sync.settings.maxSteps)
    (settled : ∀ m ∈ starts, m.loop = id →
      m.time + perMs * c.sync.settings.settleDelayMs ≤ c.now)
    (spaced : ∀ m ∈ requests, m.time +
      perMs * min c.sync.settings.settleDelayMs c.sync.settings.stepIntervalMs ≤ c.now) :
    let e : Scene.Event := .go (.loop id)
    OnTime perMs (c.next perMs (.scene e)) starts (requests ++ c.requestsIn (.scene e)) := by
  have waiting : c.sync.awaited id = none := (awaited_of_found before.found).trans between.waiting
  cases planned : c.sync.state.plan c.sync.settings with
  | none =>
    obtain ⟨-, ended⟩ := before.wakeLoop_of_idle between planned
    have nothing : c.requestsIn (.scene (.go (.loop id))) = [] := by
      rw [requestsIn_go, awaited_of_found ended.found, if_neg fun both => both.2 rfl]
    refine h.wake before ended.toLoopAt between.running (.inl rfl) nothing ?_
    rw [List.append_nil]
    exact .finished n (by omega)
  | some plan =>
    obtain ⟨-, after⟩ := before.wakeLoop_of_planned between planned
    have one : c.requestsIn (.scene (.go (.loop id))) = [⟨c.now, id⟩] := by
      rw [requestsIn_go, waiting, after.awaited, if_pos ⟨rfl, nofun⟩]
    have moved : stage ≠ .awaiting plan := by
      rcases between with rfl | rfl <;> exact nofun
    refine h.wake before after moved (.inr ⟨rfl, settled, spaced⟩) one ?_
    refine .awaiting n plan ?_ few settled
    simp [List.countP_append, made]

/-- A loop that goes on makes no request before its pause is over. -/
theorem onTime_go (h : OnTime perMs c starts requests) (rested : c.rests id ≤ c.now) :
    let e : Scene.Event := .go (.loop id)
    OnTime perMs (c.next perMs (.scene e)) starts (requests ++ c.requestsIn (.scene e)) := by
  have stands := h.stands id
  generalize found : c.sync.loop? id = o at stands
  let settings := c.sync.settings
  cases stands with
  | unknown made never =>
    exact h.wake_of_same (by simp only [wakeLoop, found]) (by simp [wakeLoop, found])
  | fresh made =>
    have before : LoopAt c.sync id 0 .fresh := ⟨h.claimed, found⟩
    obtain ⟨waits, after⟩ := before.wakeLoop_of_fresh
    have nothing : c.requestsIn (.scene (.go (.loop id))) = [] := by
      rw [requestsIn_go, awaited_of_found after.found, if_neg fun both => both.2 rfl]
    have pauses : c.scene.waitAfter (.go (.loop id)) =
        some (id, .pause c.sync.settings.settleDelayMs) := congrArg (fun w => some (id, w)) waits
    refine h.wake before after (by simp) (.inl rfl) nothing ?_
    rw [List.append_nil, rests_of_pause pauses]
    exact .settling made (fun m mem _ => Nat.add_le_add_right (h.started m mem) _)
      fun m mem => Nat.add_le_add_right (h.requested m mem) _
  | settling made settled spaced =>
    refine h.wake_of_between ⟨h.claimed, found⟩ (.inl rfl) made (Nat.le_max_left ..)
      (fun m mem mine => Nat.le_trans (settled m mem mine) rested) fun m mem => ?_
    have least := Nat.mul_le_mul_left perMs
      (Nat.min_le_left settings.settleDelayMs settings.stepIntervalMs)
    exact Nat.le_trans (Nat.add_le_add_left least _) (Nat.le_trans (spaced m mem) rested)
  | awaiting completed plan made few settled =>
    exact h.wake_of_same (by simp only [wakeLoop, found]) (by simp [wakeLoop, found])
  | resting completed made few settled spaced =>
    refine h.wake_of_between ⟨h.claimed, found⟩ (.inr rfl) made
      (Nat.le_trans few (Nat.le_max_right ..)) settled fun m mem => ?_
    have least := Nat.mul_le_mul_left perMs
      (Nat.min_le_right settings.settleDelayMs settings.stepIntervalMs)
    exact Nat.le_trans (Nat.add_le_add_left least _) (Nat.le_trans (spaced m mem) rested)
  | finished completed few =>
    exact h.wake_of_same (by simp only [wakeLoop, found]) (by simp [wakeLoop, found])

/-! ## A loop that gets its answer -/

/-- A loop that takes in an answer rests, or it ends. -/
theorem onTime_answer (h : OnTime perMs c starts requests) (answer : Answer) (canRun : Bool)
    (heard : List Change) :
    let e : Scene.Event := .answer (.loop id) answer canRun heard
    OnTime perMs (c.next perMs (.scene e)) (starts ++ c.startsIn (.scene e)) requests := by
  intro e
  have claimed := Scene.claimed_next h.claimed e
  have settings := c.scene.settings_next e
  cases waiting : c.sync.awaited id with
  | none =>
    have nothing : c.scene.underway (.loop id) = none := waiting
    have same := c.scene.next_answer_of_none nothing answer canRun heard
    have rests : (c.next perMs (.scene e)).rests = c.rests := by
      refine rests_of_no_pause fun i ms here => ?_
      simp only [Scene.waitAfter, e, waiting] at here
      cases here
    rw [startsIn_of_length (by rw [same]), List.append_nil]
    exact h.keep claimed settings (Nat.le_refl _) rests (congrArg (·.sync.loops) same)
  | some plan =>
    have moves : Moves id c.sync (c.scene.next e).sync :=
      Scene.answer_moves h.claimed waiting answer canRun heard
    have mine (w : Nat × Wait) (waits : c.scene.waitAfter e = some w) : w.1 = id := by
      obtain ⟨_, -, rfl⟩ := Option.map_eq_some_iff.1 waits
      rfl
    have others (j : Nat) (other : j ≠ id) : (c.next perMs (.scene e)).rests j = c.rests j :=
      rests_of_ne mine other
    -- Where the loop stands says how it goes on after the answer was taken in.
    have stands := h.stands id
    obtain ⟨l, found, stage⟩ := loop?_of_awaited waiting
    rw [found] at stands
    cases stands with
    | awaiting completed plan' made few settled =>
      obtain rfl : plan' = plan := Stage.awaiting.inj stage
      let taken := c.sync.conclude plan' answer canRun heard
      have before : LoopAt taken.1 id completed (.awaiting plan') :=
        LoopAt.conclude ⟨h.claimed, found⟩ nofun plan' answer canRun heard
      have kept : taken.1.settings = c.sync.settings := settings_conclude ..
      have advanced : (c.scene.next e).sync = (taken.1.advanceLoop id taken.2).1 := by
        obtain ⟨-, -, -, advanced⟩ := c.scene.next_answer_loop waiting answer canRun heard
        rw [advanced]
      have waits : c.scene.waitAfter e = some (id, (taken.1.advanceLoop id taken.2).2) := by
        simp only [Scene.waitAfter, e, waiting]
        rfl
      have looks : (c.next perMs (.scene e)).sync.loop? id =
          (taken.1.advanceLoop id taken.2).1.loop? id := congrArg (·.loop? id) advanced
      have nothing : c.Asks perMs starts requests id [] := .inl rfl
      rw [startsIn_of_length moves.length_eq, List.append_nil, ← List.append_nil requests]
      refine h.move (d := c.next perMs (.scene e)) moves claimed settings rfl others nothing ?_
      rw [List.append_nil, looks]
      rcases conclude_outcome c.sync plan' answer canRun heard with failed | done
      · obtain ⟨-, ended⟩ := before.advanceLoop_of_failed nofun plan'.step
        rw [failed, ended.found]
        exact .finished completed (made ▸ few)
      · by_cases last : taken.1.settings.maxSteps ≤ completed + 1
        · obtain ⟨-, ended⟩ := before.advanceLoop_of_last nofun plan'.step last
          rw [done, ended.found]
          exact .finished (completed + 1) (made ▸ few)
        · obtain ⟨pauses, after⟩ := before.advanceLoop_of_completed nofun plan'.step last
          have rests : c.scene.waitAfter e = some (id, .pause taken.1.settings.stepIntervalMs) := by
            rw [waits, ← pauses, ← done]
          rw [done, after.found, rests_of_pause rests, kept]
          refine .resting (completed + 1) made ?_ settled fun m mem => ?_
          · rw [kept] at last
            exact Nat.lt_of_not_le last
          · exact Nat.add_le_add_right (h.requested m mem) _
    | _ => exact nomatch stage

/-! ## Every event -/

/-- Every event keeps the loops on time. -/
theorem onTime_next (h : OnTime perMs c starts requests) {e : Event} (timely : c.Timely e) :
    OnTime perMs (c.next perMs e) (starts ++ c.startsIn e) (requests ++ c.requestsIn e) := by
  cases e with
  | pass ticks =>
    have nothing : c.startsIn (.pass ticks) = [] ∧ c.requestsIn (.pass ticks) = [] := ⟨rfl, rfl⟩
    rw [nothing.1, nothing.2, List.append_nil, List.append_nil]
    exact h.keep h.claimed rfl (Nat.le_add_right ..) rfl rfl
  | scene e =>
    cases e with
    | change canRun change =>
      have nothing : c.requestsIn (.scene (.change canRun change)) = [] := rfl
      rw [nothing, List.append_nil]
      exact onTime_change h canRun change
    | go d =>
      cases d with
      | hand n => exact nomatch timely
      | loop id =>
        rw [startsIn_go, List.append_nil]
        exact onTime_go h timely
    | answer d answer canRun heard =>
      cases d with
      | hand n => exact nomatch timely
      | loop id =>
        have nothing : c.requestsIn (.scene (.answer (.loop id) answer canRun heard)) = [] := rfl
        rw [nothing, List.append_nil]
        exact onTime_answer h answer canRun heard

theorem onTime_run (h : OnTime perMs c starts requests) {events : List Event}
    (timely : Run.Admitted (next perMs) Timely c events) :
    OnTime perMs (c.run perMs events) (starts ++ c.starts perMs events)
      (requests ++ c.requests perMs events) := by
  induction events generalizing c starts requests with
  | nil =>
    rw [Clocked.starts, Clocked.requests, List.append_nil, List.append_nil]
    exact h
  | cons e rest ih =>
    rw [Clocked.starts, Clocked.requests, ← List.append_assoc, ← List.append_assoc]
    exact ih (onTime_next h timely.1) timely.2

theorem onTime_new (settings : SyncSettings) (wording : Wording) (perMs : Nat) :
    OnTime perMs (new settings wording) [] [] :=
  ⟨Scene.claimed_new settings wording, nofun, nofun, nofun, nofun, .nil,
    fun _ => .unknown rfl nofun⟩

/-! ## The log -/

theorem countP_issued (before after : Option Plan) :
    (issued (before.map Plan.request) (after.map Plan.request)).countP (·.isRequest) =
      if before = none ∧ after ≠ none then 1 else 0 := by
  cases before <;> cases after <;> rfl

theorem countP_answered (o : Option Request) (answer : Answer) :
    (answered o answer).countP (·.isRequest) = 0 := by
  cases o <;> cases answer <;> rfl

/-- The log counts the requests of the loops. -/
theorem requests_log_next {e : Event} (timely : c.Timely e) :
    (c.next perMs e).sync.log.requests = c.sync.log.requests + (c.requestsIn e).length := by
  cases e with
  | pass ticks => rfl
  | scene e =>
    have told := congrArg (·.requests) (Switchboard.log_scene ⟨c.scene, fun _ => .idle⟩ e)
    rw [ExchangeLog.requests_recordAll] at told
    refine told.trans (congrArg (c.sync.log.requests + ·) ?_)
    cases e with
    | change canRun change => rfl
    | answer d answer canRun heard => exact countP_answered _ answer
    | go d =>
      cases d with
      | hand n => exact nomatch timely
      | loop id =>
        refine (countP_issued (c.sync.awaited id) ((c.sync.wakeLoop id).1.awaited id)).trans ?_
        rw [requestsIn_go, apply_ite List.length]
        rfl

theorem requests_log_run {events : List Event}
    (timely : Run.Admitted (next perMs) Timely c events) :
    (c.run perMs events).sync.log.requests =
      c.sync.log.requests + (c.requests perMs events).length := by
  induction events generalizing c with
  | nil => rfl
  | cons e rest ih =>
    have later := ih timely.2
    rw [requests_log_next timely.1, Nat.add_assoc, ← List.length_append] at later
    exact later

theorem settings_run (perMs : Nat) (c : Clocked) (events : List Event) :
    (c.run perMs events).sync.settings = c.sync.settings := by
  induction events generalizing c with
  | nil => rfl
  | cons e rest ih =>
    refine (ih (c.next perMs e)).trans ?_
    cases e with
    | pass ticks => rfl
    | scene e => exact c.scene.settings_next e

/-- A loop that made a request was started. -/
theorem OnTime.exists_start (h : OnTime perMs c starts requests) {request : Moment}
    (mem : request ∈ requests) : ∃ start ∈ starts, start.loop = request.loop := by
  have stands := h.stands request.loop
  generalize found : c.sync.loop? request.loop = o at stands
  cases stands with
  | unknown made never =>
    exact absurd (decide_eq_true rfl) (List.countP_eq_zero.1 made request mem)
  | _ => exact h.known request.loop _ found

/-- Requests are paced. In every run that is driven by loops alone, with changes and answers at any
time and pauses that may last longer but are never cut short: the log counts the requests of the
loops; every loop that makes one was started, and makes it after a change had the time to settle
since then; it makes as many as it may at most, or one if it may make none; and between any two
requests, of one loop or of two, there is at least the shorter one of both pauses. -/
theorem requests_are_paced (settings : SyncSettings) (wording : Wording) (perMs : Nat)
    (events : List Event)
    (timely : Run.Admitted (next perMs) Timely (new settings wording) events) :
    let starts := (new settings wording).starts perMs events
    let requests := (new settings wording).requests perMs events
    ((new settings wording).run perMs events).sync.log.requests = requests.length ∧
    (∀ request ∈ requests, ∃ start ∈ starts, start.loop = request.loop) ∧
    (∀ start ∈ starts, ∀ request ∈ requests, request.loop = start.loop →
      start.time + perMs * settings.settleDelayMs ≤ request.time) ∧
    (∀ id, requests.countP (·.loop = id) ≤ max 1 settings.maxSteps) ∧
    requests.Pairwise fun first second =>
      first.time + perMs * min settings.settleDelayMs settings.stepIntervalMs ≤ second.time := by
  intro starts requests
  have h : OnTime perMs ((new settings wording).run perMs events) starts requests :=
    onTime_run (onTime_new settings wording perMs) timely
  have same : ((new settings wording).run perMs events).sync.settings = settings :=
    settings_run perMs (new settings wording) events
  have settled := h.settled
  have few (id : Nat) := (h.stands id).few
  have spaced := h.spaced
  rw [same] at settled spaced
  simp only [same] at few
  have counted := requests_log_run timely
  have none : (new settings wording).sync.log.requests = 0 := rfl
  rw [none, Nat.zero_add] at counted
  exact ⟨counted, fun _ => h.exists_start, settled, few, spaced⟩

/-- A loop makes a request after two seconds that fails; a change that is made right then starts
another loop, which settles for two seconds again. -/
theorem requests_are_paced_of_failure :
    let lost : Answer := .error (.transport "connection reset by peer")
    let events : List Event := [
      .scene (.change true .runLoop), .scene (.go (.loop 0)), .pass 2000, .scene (.go (.loop 0)),
      .pass 300, .scene (.answer (.loop 0) lost true []), .scene (.change true .runLoop),
      .scene (.go (.loop 1)), .pass 2000, .scene (.go (.loop 1))]
    let starts := (new .default .brief).starts 1 events
    let requests := (new .default .brief).requests 1 events
    Run.Admitted (next 1) Timely (new .default .brief) events ∧
      starts = [⟨0, 0⟩, ⟨2300, 1⟩] ∧ requests = [⟨2000, 0⟩, ⟨4300, 1⟩] ∧
      requests.Pairwise fun first second => first.time + 1 * min 2000 1000 ≤ second.time := by
  intro lost events starts requests
  have timely : Run.Admitted (next 1) Timely (new .default .brief) events := by
    refine ⟨trivial, ?_, trivial, ?_, trivial, trivial, trivial, ?_, trivial, ?_, trivial⟩ <;>
      exact Nat.le_of_ble_eq_true (by decide +kernel)
  exact ⟨timely, rfl, rfl, (requests_are_paced .default _ 1 events timely).2.2.2.2⟩

end Clocked
end Reconciler
end LightSync
