/-!
# Tasks on a virtual clock

Tasks that wait some milliseconds and then have a value, or break down with a message. A task can
be aborted before its time has come; waiting for an aborted task gives nothing.

## Main definitions

- `TaskPool`, `TaskPool.spawn`, `abort`, `sleep`
- `TaskPool.join`: waits for a task
-/

namespace LightSync.Simulation

/-- A task: when it ends, and how. -/
structure PooledTask (α : Type) where
  due : Nat
  /-- Its value, or the message with which it breaks down. -/
  result : Except String α
  aborted : Bool

/-- Tasks with a clock. -/
structure TaskPool (α : Type) where
  now : Nat
  tasks : Array (PooledTask α)

namespace TaskPool

variable {α : Type}

def new : TaskPool α := ⟨0, #[]⟩

/-- Starts a task. Gives its number. -/
def spawn (p : TaskPool α) (ms : Nat) (result : Except String α) : TaskPool α × Nat :=
  ({ p with tasks := p.tasks.push ⟨p.now + ms, result, false⟩ }, p.tasks.size)

/-- Is a task over at some time? -/
def isOver (t : PooledTask α) (now : Nat) : Bool := t.aborted || t.due ≤ now

def isFinished (p : TaskPool α) (task : Nat) : Option Bool := p.tasks[task]?.map (isOver · p.now)

/-- Aborts a task unless it is over. -/
def abort (p : TaskPool α) (task : Nat) : TaskPool α :=
  { p with
    tasks := p.tasks.modify task fun t => { t with aborted := t.aborted || !isOver t p.now } }

/-- Waits some milliseconds. -/
def sleep (p : TaskPool α) (ms : Nat) : TaskPool α := { p with now := p.now + ms }

/-- Waits for a task. An aborted one gives nothing. -/
def join (p : TaskPool α) (task : Nat) : Option (TaskPool α × Option (Except String α)) :=
  p.tasks[task]?.map fun t =>
    if t.aborted then (p, none) else ({ p with now := max p.now t.due }, some t.result)

end TaskPool
end LightSync.Simulation
