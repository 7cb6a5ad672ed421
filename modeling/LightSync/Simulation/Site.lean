import LightSync.Household.Motion
import LightSync.Reconciler.Waiting
import LightSync.Simulation.Script

/-!
# A household on a virtual clock

A site is a household with a scripted bridge, a scripted home platform and a clock that counts
milliseconds. Nothing takes time but waiting: the clock jumps to the next moment at which somebody
waits no longer. Loops and timers run in the background, only while the foreground waits; of those
due at the same moment, the one that was started first runs first.

## Main definitions

- `Site`, `Event`
- `Site.nextTask`, `Site.runTask`: the background
- `Site.pause`, `Site.settle`: waiting in the foreground
- the instance of `Environment`, by which the foreground drives the reconciler
- `Site.untilIdle`: waits for loops
-/

namespace LightSync.Simulation

open Bridge Household Reconciler

/-- Something asked of the outside. -/
inductive Event where
  | request (request : Request)
  | host (call : HostCall)
  /-- A registered listener was told that the managed groups were loaded. -/
  | ready

/-- Who is told that the managed groups were loaded. -/
inductive Listener where
  | nobody
  /-- The household, which pushes everything desired. -/
  | household
  /-- A listener that makes some changes. -/
  | script (changes : List Change)

/-- What a waiting loop waits for. -/
inductive Due where
  | wake
  | answer (answer : Answer)

/-- A loop that waits until some time. -/
structure Appointment where
  id : Nat
  due : Nat
  what : Due

/-- A household with its surroundings. -/
structure Site where
  /-- Milliseconds since the start. -/
  now : Nat
  home : Household ScriptedHost
  /-- Does anybody still attend to the household? -/
  attended : Bool
  listener : Listener
  bridge : ScriptedBridge
  /-- The loops that wait. -/
  agenda : List Appointment
  /-- What was asked of the outside, each with its time, oldest first. -/
  events : Array (Nat × Event)

/-- A piece of work in the background. -/
inductive Job where
  | wakeLoop
  | answerLoop (answer : Answer)
  | timer (entityId : String)

/-- A job, by whom it is done, and when. -/
structure Task where
  due : Nat
  id : Nat
  job : Job

/-- Is a task to be done before another? -/
def Task.before (a b : Task) : Bool := a.due < b.due || (a.due = b.due && a.id < b.id)

namespace Site

def record (s : Site) (e : Event) : Site := { s with events := s.events.push (s.now, e) }

/-- Records the calls that the home platform got. -/
def collectCalls (s : Site) : Site :=
  let calls := s.home.host.calls
  let host := { s.home.host with calls := [] }
  calls.foldl (fun s call => s.record (.host call)) { s with home := { s.home with host } }

def onHome (s : Site) (f : Household ScriptedHost → Household ScriptedHost) : Site :=
  { s with home := f s.home }.collectCalls

def sync (s : Site) : Reconciler := s.home.sync

def withSync (s : Site) (r : Reconciler) : Site := { s with home := { s.home with sync := r } }

/-- Makes changes where loops can run, or cannot. -/
def changeAll (s : Site) (canRun : Bool) (changes : List Change) : Site :=
  s.withSync (s.sync.changeAll canRun changes)

/-- Tells the listener that the managed groups were loaded. -/
def ready (s : Site) : Site :=
  match s.listener with
  | .nobody => s
  | .household => if s.attended then s.onHome pushDesired else s
  | .script changes => (s.record .ready).changeAll true changes

/-- Hands a request to the bridge, and makes the changes that come in while it is under way. -/
def handOver (s : Site) (request : Request) : Site × Nat × Answer :=
  let s := s.record (.request request)
  let (bridge, delivery) := s.bridge.take request
  let s := { s with bridge }.changeAll true delivery.during
  (s, delivery.delayMs, delivery.answer)

/-! ## The background -/

def tasks (s : Site) : List Task :=
  (s.sync.loops.filter (·.stage = .fresh)).map (fun l => ⟨s.now, l.id, .wakeLoop⟩) ++
  s.agenda.map (fun a =>
    ⟨a.due, a.id, match a.what with
      | .wake => .wakeLoop
      | .answer answer => .answerLoop answer⟩) ++
  s.home.timers.pending.map (fun t => ⟨t.due, t.id, .timer t.entityId⟩)

def nextTask (s : Site) : Option Task :=
  s.tasks.foldl (fun best t =>
    match best with
    | none => some t
    | some b => if t.before b then some t else some b) none

/-- Takes in the answer to the request of a loop. -/
def answerLoop (s : Site) (id : Nat) (answer : Answer) : Site × Wait :=
  match s.sync.loop? id with
  | some ⟨_, _, .awaiting plan⟩ =>
    let s := s.withSync (s.sync.receive plan.request answer)
    let (r, outcome, loaded) := s.sync.finish plan answer
    let s := s.withSync r
    let s := if loaded then s.ready else s
    let (r, wait) := s.sync.advanceLoop id outcome
    (s.withSync r, wait)
  | _ => (s, .nothing)

/-- Lets a loop wait. What takes no time is done at once, at most `fuel` times. -/
def followLoop (s : Site) (id : Nat) (wait : Wait) : Nat → Site
  | 0 => s
  | fuel + 1 =>
    match wait with
    | .nothing => s
    | .pause 0 =>
      let (r, wait) := s.sync.wakeLoop id
      (s.withSync r).followLoop id wait fuel
    | .pause ms => { s with agenda := s.agenda ++ [⟨id, s.now + ms, .wake⟩] }
    | .answer request =>
      match s.handOver request with
      | (s, 0, answer) =>
        let (s, wait) := s.answerLoop id answer
        s.followLoop id wait fuel
      | (s, delay, answer) => { s with agenda := s.agenda ++ [⟨id, s.now + delay, .answer answer⟩] }

/-- More than the number of waits of one loop. -/
def loopBudget (s : Site) : Nat := 2 * s.sync.settings.maxSteps + 8

/-- Does a task; the clock shows at least the time at which it is due. -/
def runTask (s : Site) (t : Task) : Site :=
  let s := { s with now := max s.now t.due }
  match t.job with
  | .timer entityId => s.onHome (·.expireTimer s.attended entityId t.id)
  | .wakeLoop =>
    let s := { s with agenda := s.agenda.filter (·.id != t.id) }
    let (r, wait) := s.sync.wakeLoop t.id
    (s.withSync r).followLoop t.id wait s.loopBudget
  | .answerLoop answer =>
    let s := { s with agenda := s.agenda.filter (·.id != t.id) }
    let (s, wait) := s.answerLoop t.id answer
    s.followLoop t.id wait s.loopBudget

/-- More than the number of tasks that can be done before the foreground acts again: only timers
and the loops they start add tasks. -/
def taskBudget (s : Site) : Nat :=
  (s.sync.loops.length + s.home.timers.size + 2) * s.loopBudget

/-- Does tasks for as long as the next one fulfils a condition. -/
def runWhile (s : Site) (condition : Site → Task → Bool) : Nat → Site
  | 0 => s
  | fuel + 1 =>
    match s.nextTask with
    | none => s
    | some t => if condition s t then (s.runTask t).runWhile condition fuel else s

/-- Does everything that is due. -/
def settle (s : Site) : Site := s.runWhile (fun s t => t.due ≤ s.now) s.taskBudget

/-! ## The foreground -/

/-- Waits some milliseconds. What is due at the end of the wait comes after the foreground. -/
def pause (s : Site) (ms : Nat) : Site :=
  if ms = 0 then s
  else
    let stop := s.now + ms
    let s := s.runWhile (fun _ t => t.due < stop) s.taskBudget
    { s with now := stop }

def exchange (s : Site) (request : Request) : Site × Answer :=
  let (s, delay, answer) := s.handOver request
  (s.pause delay, answer)

instance : Environment Site where
  sync := sync
  withSync := withSync
  exchange := exchange
  pause := pause
  interleave s := s
  ready := ready

/-- Lets the background go on until a loop is finished, and does everything that is then due. -/
def finishLoop (s : Site) (id : Nat) : Site :=
  if s.sync.isFinished id then s
  else (s.runWhile (fun s _ => !s.sync.isFinished id) s.taskBudget).settle

/-- Waits for one loop after the other. Gives the number of steps of all loops waited for. -/
def followWaiting (s : Site) (waiting : Waiting) : Nat → Site × Nat
  | 0 =>
    match waiting with
    | .on _ total => (s, total)
    | .done total => (s, total)
  | fuel + 1 =>
    match waiting with
    | .done total => (s, total)
    | .on id total =>
      let s := s.finishLoop id
      let (r, waiting) := s.sync.resumeWaiting (.on id total)
      (s.withSync r).followWaiting waiting fuel

/-- Waits until no loop runs. Gives the number of steps of all loops waited for. -/
def untilIdle (s : Site) : Site × Nat :=
  let (r, waiting) := s.sync.takeLatest 0
  (s.withSync r).followWaiting waiting (s.sync.loops.length + s.home.timers.size + 2)

end Site
end LightSync.Simulation
