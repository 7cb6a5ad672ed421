import LightSync.Bridge.ExchangeLog
import LightSync.Journal
import LightSync.Reconciler.Change
import LightSync.Reconciler.Update

/-!
# The reconciler

The reconciler holds the state, the log of its exchanges with the bridge, and the loops that it
started. Its operations are atomic: each is a function from reconciler to reconciler, and whatever
takes time (waiting, a request under way) lies between two of them.

A change that may have made work starts a loop, unless one is running. A step is made in parts:
`begin` plans it, `announce` records its request, `receive` records the answer and `finish` takes
it in.

## Main definitions

- `Reconciler`, `Loop`
- `Reconciler.change`: makes a change, and starts a loop if there is none
- `Reconciler.begin`, `announce`, `receive`, `finish`: the parts of a step
- `Outcome`: how a step ended
-/

namespace LightSync

open Bridge

namespace Reconciler

/-- Where a loop stands. -/
inductive Stage where
  /-- Started, and not yet run. -/
  | fresh
  /-- Waiting for changes to settle. -/
  | settling
  /-- Its request is under way. -/
  | awaiting (plan : Plan)
  /-- Waiting between two steps. -/
  | resting
  | finished
deriving DecidableEq

/-- A loop that carries out steps in the background. -/
structure Loop where
  /-- Its place among all that was ever started. -/
  id : Nat
  completed : Nat
  stage : Stage
deriving DecidableEq

/-- How a step ended. -/
inductive Outcome where
  /-- There was nothing to do. -/
  | idle
  /-- The step was made; there may be more to do. -/
  | completed (step : Step)
  /-- The bridge could not be reached, or refused the request. -/
  | failed (step : Step)
deriving DecidableEq, Repr

namespace Outcome

def isIdle : Outcome → Bool
  | idle => true
  | _ => false

def display : Outcome → String
  | idle => "idle"
  | completed step => s!"completed {step.name}"
  | failed step => s!"failed {step.name}"

end Outcome
end Reconciler

open Reconciler

/-- The state of the reconciliation, with its log and its loops. -/
structure Reconciler where
  settings : SyncSettings
  /-- The words for what does not decode, in the texts of failed steps. -/
  wording : Wording
  state : Reconciler.State
  log : ExchangeLog
  /-- All loops ever started, in the order in which they were. -/
  loops : List Loop
  /-- The loop to wait for: the last one started that nobody has waited for. -/
  latest : Option Nat
  /-- How many loops and timers were ever started. -/
  started : Nat
  /-- What was reported, oldest first. -/
  journal : Array Line

namespace Reconciler

/-- A reconciler that knows nothing of its bridge. -/
def new (settings : SyncSettings) (wording : Wording) : Reconciler :=
  ⟨settings, wording, .empty, .new ExchangeLog.defaultCapacity, [], none, 0, #[]⟩

def note (r : Reconciler) (line : Line) : Reconciler := { r with journal := r.journal.push line }

def noteAll (r : Reconciler) (lines : List Line) : Reconciler := lines.foldl note r

def isReady (r : Reconciler) : Bool := r.state.isReady

def isLooping (r : Reconciler) : Bool := r.state.looping

/-! ## Changes -/

/-- Takes the next place among all that is started. -/
def takeTicket (r : Reconciler) : Reconciler × Nat :=
  ({ r with started := r.started + 1 }, r.started)

/-- Starts a loop, if loops are wanted, can run here, and none is running. -/
def claimLoop (r : Reconciler) (canRun : Bool) : Reconciler :=
  if r.settings.background && !r.state.looping && canRun then
    let (r, id) := r.takeTicket
    { r with
      state := { r.state with looping := true }
      loops := r.loops ++ [⟨id, 0, .fresh⟩]
      latest := some id }
  else r

/-- Makes a change. `canRun` tells whether loops can run where the change is made. -/
def change (r : Reconciler) (canRun : Bool) (c : Change) : Reconciler :=
  match r.state.change c with
  | (_, .dropped kind) =>
    r.note (.debug s!"Automatic {kind.name} group not loaded; dropping update")
  | (_, .none) => r
  | (state, .changed) => { r with state }.claimLoop canRun

def changeAll (r : Reconciler) (canRun : Bool) (changes : List Change) : Reconciler :=
  changes.foldl (change · canRun) r

/-! ## Steps -/

/-- Plans a step. Where nothing is to be done, a loop gives up its claim at once. -/
def begin (r : Reconciler) (releaseLoop : Bool) : Reconciler × Option Plan :=
  match r.state.plan r.settings with
  | some plan => (r, some plan)
  | none =>
    (if releaseLoop then { r with state := { r.state with looping := false } } else r, none)

/-- Records a request that is about to be made. -/
def send (r : Reconciler) (request : Request) : Reconciler :=
  { r with log := r.log.sent request.method.name request.path request.body }

def announce (r : Reconciler) (plan : Plan) : Reconciler :=
  let r := match plan with
    | .membership kind path lights =>
      r.note (.info s!"Updating Hue {kind.name} group {path} to {lights.display}")
    | _ => r
  r.send plan.request

/-- Records the answer to a request. -/
def receive (r : Reconciler) (request : Request) (answer : Answer) : Reconciler :=
  match answer with
  | .error _ => r
  | .ok response =>
    let r := { r with
      log := r.log.received request.method.name request.path response.status response.body }
    if request.method = .get && response.isOk then
      r.note (.info s!"GET {response.status} {request.path}")
    else r

/-- What is reported about a write that was answered. -/
def noteWrite (r : Reconciler) (path : String) (response : Response) : Reconciler :=
  r.note (.info s!"PUT {response.status} {path} -> {response.body.write}")

/-- What is reported about the reply in the body of a response. -/
def noteReply (r : Reconciler) (path : String) (response : Response) : Reconciler :=
  match Reply.ofBody? response.body with
  | none => r.note (.warn "Unexpected bridge reply")
  | some reply =>
    r.noteAll (reply.errors.map fun e =>
      .warn s!"PUT {path} rejected {e.address}: {e.description} (type {e.kind})")

/-- What is reported about one of the managed groups after the groups were listed. -/
def managedLine (label name : String) (groups : List Group) : Line :=
  match groups.find? (·.name = name) with
  | some g => .info s!"Hue Automatic {label} group is {g.number}"
  | none => .warn s!"No group named '{name}'"

/-- What is reported about an answer that was read, before it is taken in. -/
def noteUpdate (r : Reconciler) (plan : Plan) (answer : Answer) (u : Update) : Reconciler :=
  match u, answer with
  | .lights lights, _ =>
    (r.noteAll (lights.map fun l => .info s!"Discovered Hue Light: {l.display}")).note
      (.info s!"Loaded {lights.length} lights from Hue")
  | .groups groups, _ =>
    (r.noteAll (groups.map fun g => .info s!"Discovered Hue Group: {g.display}")).noteAll
      [.info s!"Loaded {groups.length} groups from Hue",
        managedLine "Brightness" r.settings.brightnessGroup groups,
        managedLine "Temperature" r.settings.temperatureGroup groups]
  | .membership kind path confirmed, .ok response =>
    let verdict := if r.state.confirmsMembership kind path confirmed then "ACK" else "NAK"
    let lights := match plan with
      | .membership _ _ lights => lights.display
      | _ => ""
    (r.noteReply path response).note (.info s!"PUT {response.status} {verdict} {path} {lights}")
  | .values .., .ok response =>
    (r.noteReply plan.request.path response).noteWrite plan.request.path response
  | .allOff, .ok response => r.noteWrite plan.request.path response
  | _, .error _ => r

/-- Takes in the answer to a planned request. The last part of the result tells whether the groups
were just loaded with both managed ones among them. -/
def finish (r : Reconciler) (plan : Plan) (answer : Answer) : Reconciler × Outcome × Bool :=
  match plan.read answer with
  | .error failure =>
    let text := failure.message r.wording
    let r := r.note (.warn s!"Step {plan.step.name} failed: {text}")
    ({ r with log := r.log.recordError text }, .failed plan.step, false)
  | .ok u =>
    let r := r.noteUpdate plan answer u
    let state := r.state.update r.settings u
    let ready := match u with
      | .groups _ => state.isReady
      | _ => false
    ({ r with state }, .completed plan.step, ready)

end Reconciler
end LightSync
