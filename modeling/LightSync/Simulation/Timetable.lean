import LightSync.Household.Basic

/-!
# Timers on a virtual clock

Timers alone, without a household: a clock that counts milliseconds, and a record of which timers
have run out when. Timers due together run out in the order in which they were started.

## Main definitions

- `Timetable`, `Timetable.start`, `cancel`, `cancelAll`, `sleep`
- `Timetable.settle`: everything due has run out
-/

namespace LightSync.Simulation

open Household

/-- A timer that has run out. -/
structure Firing where
  time : Nat
  /-- Which start it was, counted from zero. -/
  start : Nat
  entityId : String

/-- Timers with a clock. -/
structure Timetable where
  now : Nat
  started : Nat
  timers : OffTimers Unit
  journal : Array Line
  fired : Array Firing

namespace Timetable

def new : Timetable := ⟨0, 0, .empty, #[], #[]⟩

def noteAll (t : Timetable) (lines : List Line) : Timetable :=
  { t with journal := lines.foldl Array.push t.journal }

/-- Starts a timer of some milliseconds. -/
def start (t : Timetable) (entityId : String) (ms : Nat) : Timetable :=
  let tenths := Decimal.writeTenths (Household.waitSeconds (ms * 1000000))
  let t := t.noteAll (t.timers.startLines entityId tenths)
  { t with
    started := t.started + 1
    timers := t.timers.start ⟨t.started, entityId, t.now + ms, ()⟩ }

def cancel (t : Timetable) (entityId : String) : Timetable × Bool :=
  let t := t.noteAll (t.timers.cancelLines entityId)
  let (timers, found) := t.timers.cancel entityId
  ({ t with timers }, found)

def cancelAll (t : Timetable) : Timetable × Nat :=
  let t := t.noteAll t.timers.cancelAllLines
  let (timers, count) := t.timers.cancelAll
  ({ t with timers }, count)

/-- The timer that runs out next. -/
def next (t : Timetable) : Option (OffTimer Unit) :=
  t.timers.pending.foldl (fun best timer =>
    match best with
    | none => some timer
    | some b => if timer.due < b.due || (timer.due = b.due && timer.id < b.id) then some timer
      else some b) none

/-- Lets a timer run out. -/
def expire (t : Timetable) (timer : OffTimer Unit) : Timetable :=
  let now := max t.now timer.due
  match t.timers.expire timer.entityId timer.id with
  | (timers, some ()) =>
    { t with now, timers, fired := t.fired.push ⟨now, timer.id, timer.entityId⟩ }.noteAll
      [OffTimers.fireLine timer.entityId]
  | (timers, none) => { t with now, timers }

/-- Lets at most `count` timers run out, of those due until some time. -/
def expireUntil (t : Timetable) (time : Nat) : Nat → Timetable
  | 0 => t
  | count + 1 =>
    match t.next with
    | some timer => if timer.due ≤ time then (t.expire timer).expireUntil time count else t
    | none => t

/-- Lets everything due run out. -/
def settle (t : Timetable) : Timetable := t.expireUntil t.now t.timers.size

/-- Waits some milliseconds. -/
def sleep (t : Timetable) (ms : Nat) : Timetable :=
  let stop := t.now + ms
  { t.expireUntil stop t.timers.size with now := stop }

end Timetable
end LightSync.Simulation
