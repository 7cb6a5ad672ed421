import LightSync.Journal

/-!
# Timers that turn lights off

At most one timer is pending for an entity: starting another one replaces it. Every timer has an id
of its own, so that a timer which runs out just when it is replaced never takes its successor with
it.

## Main definitions

- `OffTimer`, `OffTimers`
- `OffTimers.start`, `cancel`, `cancelAll`: what callers do
- `OffTimers.expire`: a timer has run out
-/

namespace LightSync.Household

/-- A timer: what is to be done for an entity, and when. -/
structure OffTimer (α : Type) where
  id : Nat
  entityId : String
  /-- The time at which it runs out, in milliseconds. -/
  due : Nat
  job : α
deriving DecidableEq

/-- The pending timers, in the order in which they were started. -/
structure OffTimers (α : Type) where
  pending : List (OffTimer α)
deriving DecidableEq

namespace OffTimers

variable {α : Type}

def empty : OffTimers α := ⟨[]⟩

instance : Inhabited (OffTimers α) := ⟨empty⟩

def find? (t : OffTimers α) (entityId : String) : Option (OffTimer α) :=
  t.pending.find? (·.entityId = entityId)

def isPending (t : OffTimers α) (entityId : String) : Bool := (t.find? entityId).isSome

def size (t : OffTimers α) : Nat := t.pending.length

def erase (t : OffTimers α) (entityId : String) : OffTimers α :=
  ⟨t.pending.filter (·.entityId != entityId)⟩

/-- Starts a timer in place of the one its entity may have. -/
def start (t : OffTimers α) (timer : OffTimer α) : OffTimers α :=
  ⟨(t.erase timer.entityId).pending ++ [timer]⟩

def cancel (t : OffTimers α) (entityId : String) : OffTimers α × Bool :=
  (t.erase entityId, t.isPending entityId)

def cancelAll (t : OffTimers α) : OffTimers α × Nat := (empty, t.size)

/-- A timer started with this id for this entity has run out. If it is still the current one, it is
taken off the pending ones and its job is to be done. -/
def expire (t : OffTimers α) (entityId : String) (id : Nat) : OffTimers α × Option α :=
  match t.find? entityId with
  | some timer => if timer.id = id then (t.erase entityId, some timer.job) else (t, none)
  | none => (t, none)

/-! ## Reports -/

def startLine (entityId tenths : String) : Line :=
  .info s!"Start timer: {entityId} ({tenths} seconds)"

def cancelLine (entityId : String) : Line := .info s!"Cancel timer: {entityId}"

def fireLine (entityId : String) : Line := .info s!"Fire timer: {entityId}"

/-- What is reported when a timer is started: also that the one before it is cancelled. -/
def startLines (t : OffTimers α) (entityId tenths : String) : List Line :=
  startLine entityId tenths :: if t.isPending entityId then [cancelLine entityId] else []

def cancelLines (t : OffTimers α) (entityId : String) : List Line :=
  if t.isPending entityId then [cancelLine entityId] else []

def cancelAllLines (t : OffTimers α) : List Line :=
  t.pending.map fun timer => cancelLine timer.entityId

end OffTimers
end LightSync.Household
