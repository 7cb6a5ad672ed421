import LightSync.Reconciler.Loop

/-!
# Waiting for loops

Whoever waits for loops takes the latest one, waits until it is finished, and goes on with the one
that was started meanwhile, until there is none that nobody has waited for.

## Main definitions

- `Waiting`: where somebody stands who waits for loops
- `Reconciler.takeLatest`: takes the latest loop to wait for
- `Reconciler.resumeWaiting`: after the loop that was taken is finished
-/

namespace LightSync.Reconciler

/-- Where somebody stands who waits for loops, having counted the steps of those that are over. -/
inductive Waiting where
  /-- Until a loop is finished. -/
  | on (id total : Nat)
  /-- There was no loop left to wait for. -/
  | done (total : Nat)
deriving DecidableEq

/-- Is a loop finished? One that was never started is. -/
def isFinished (r : Reconciler) (id : Nat) : Bool :=
  match r.loop? id with
  | some l => l.stage = .finished
  | none => true

/-- The number of steps that a loop completed. -/
def completedBy (r : Reconciler) (id : Nat) : Nat := ((r.loop? id).map (·.completed)).getD 0

/-- Takes the latest loop to wait for, unless somebody has taken it before. -/
def takeLatest (r : Reconciler) (total : Nat) : Reconciler × Waiting :=
  match r.latest with
  | none => (r, .done total)
  | some id => ({ r with latest := none }, .on id total)

/-- Goes on where the loop that was taken is finished: counts its steps, and takes the next one. -/
def resumeWaiting (r : Reconciler) : Waiting → Reconciler × Waiting
  | .on id total =>
    if r.isFinished id then r.takeLatest (total + r.completedBy id) else (r, .on id total)
  | .done total => (r, .done total)

end LightSync.Reconciler
