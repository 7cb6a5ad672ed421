import LightSync.Reconciler.Basic

/-!
# Loops

A loop waits for changes to settle and then makes one step after the other, with a pause between
them, until nothing is left to do, a step fails, or it has made as many steps as it may. It gives up
its claim in all three cases, so that the next change starts another loop.

## Main definitions

- `Wait`: what a loop waits for
- `Reconciler.wakeLoop`: from one wait to the next
- `Reconciler.advanceLoop`: after the answer to its request was taken in
-/

namespace LightSync.Reconciler

open Bridge

/-- What a loop waits for next. -/
inductive Wait where
  /-- Some milliseconds. -/
  | pause (ms : Nat)
  /-- The answer to a request. -/
  | answer (request : Request)
  /-- Nothing: it is finished. -/
  | nothing

def loop? (r : Reconciler) (id : Nat) : Option Loop := r.loops.find? (·.id = id)

def modifyLoop (r : Reconciler) (id : Nat) (f : Loop → Loop) : Reconciler :=
  { r with loops := r.loops.map fun l => if l.id = id then f l else l }

def setStage (r : Reconciler) (id : Nat) (stage : Stage) : Reconciler :=
  r.modifyLoop id fun l => { l with stage }

/-- Gives up the claim to be the running loop. -/
def releaseLoop (r : Reconciler) : Reconciler :=
  { r with state := { r.state with looping := false } }

/-- Ends a loop that completed some steps. -/
def endLoop (r : Reconciler) (id completed : Nat) : Reconciler :=
  (r.setStage id .finished).note
    (.debug s!"Reconciliation loop finished after {completed} steps")

/-- Runs a loop that is not waiting for an answer up to its next wait. -/
def wakeLoop (r : Reconciler) (id : Nat) : Reconciler × Wait :=
  match r.loop? id with
  | none => (r, .nothing)
  | some l =>
    match l.stage with
    | .fresh =>
      ((r.note (.debug "Reconciliation loop started")).setStage id .settling,
        .pause r.settings.settleDelayMs)
    | .settling | .resting =>
      match r.begin true with
      | (r, none) => (r.endLoop id l.completed, .nothing)
      | (r, some plan) => ((r.setStage id (.awaiting plan)).announce plan, .answer plan.request)
    | .awaiting plan => (r, .answer plan.request)
    | .finished => (r, .nothing)

/-- Runs a loop from the end of a step up to its next wait. -/
def advanceLoop (r : Reconciler) (id : Nat) (outcome : Outcome) : Reconciler × Wait :=
  match r.loop? id, outcome with
  | none, _ => (r, .nothing)
  | some l, .completed _ =>
    let completed := l.completed + 1
    let r := r.modifyLoop id fun l => { l with completed := completed }
    if r.settings.maxSteps ≤ completed then (r.releaseLoop.endLoop id completed, .nothing)
    else (r.setStage id .resting, .pause r.settings.stepIntervalMs)
  | some l, .failed _ => (r.releaseLoop.endLoop id l.completed, .nothing)
  | some l, .idle => (r.endLoop id l.completed, .nothing)

end LightSync.Reconciler
