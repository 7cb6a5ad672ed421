import LightSync.Proofs.Reading
import LightSync.Proofs.Scene

/-!
# Events as moves

Everything that an event does to the state is a few moves, one after the other: a change that is
made, the update that is read from an answer, and the changes of whoever hears that the managed
groups were loaded. So a run is told by the list of its moves, whoever drives it.

## Main definitions

- `Move`, `State.move`, `State.moveAll`
- `Scene.readUpdate`, `Scene.followUps`: what an answer brings
- `Scene.moves`, `Scene.movesOf`: the moves of an event, and of a run
-/

namespace LightSync.Reconciler

open Bridge

/-- What can happen to the state at once. -/
inductive Move where
  | change (c : Change)
  | update (u : Update)
deriving DecidableEq

namespace State

def move (settings : SyncSettings) (s : State) : Move → State
  | .change c => (s.change c).1
  | .update u => s.update settings u

def moveAll (settings : SyncSettings) (s : State) (moves : List Move) : State :=
  moves.foldl (move settings) s

variable {settings : SyncSettings} {s t : State}

theorem moveAll_cons (m : Move) (moves : List Move) :
    s.moveAll settings (m :: moves) = (s.move settings m).moveAll settings moves := rfl

theorem moveAll_append (first second : List Move) :
    s.moveAll settings (first ++ second) = (s.moveAll settings first).moveAll settings second :=
  List.foldl_append

theorem moveAll_changes (cs : List Change) :
    s.moveAll settings (cs.map .change) = s.changes cs := by
  induction cs generalizing s with
  | nil => rfl
  | cons c rest ih => exact ih

theorem update_unclaimed (u : Update) :
    (s.update settings u).unclaimed = s.unclaimed.update settings u := by
  cases u with
  | allOff =>
    have both : (s.emptyGroup .brightness |>.emptyGroup .temperature).unclaimed =
        (s.unclaimed.emptyGroup .brightness).emptyGroup .temperature := by
      simp only [emptyGroup, modifyGroup_unclaimed]
    exact congrArg (fun t : State => { t with allOff := none }) both
  | lights => rfl
  | groups => rfl
  | membership => exact modifyGroup_unclaimed ..
  | values =>
    simp only [update, modifyGroup_unclaimed]

theorem move_congr (same : s.unclaimed = t.unclaimed) (m : Move) :
    (s.move settings m).unclaimed = (t.move settings m).unclaimed := by
  cases m with
  | change c => exact changes_congr same [c]
  | update u =>
    have moved (s : State) : (s.move settings (.update u)).unclaimed =
        s.unclaimed.update settings u := update_unclaimed u
    rw [moved, moved, same]

theorem moveAll_congr (same : s.unclaimed = t.unclaimed) (moves : List Move) :
    (s.moveAll settings moves).unclaimed = (t.moveAll settings moves).unclaimed := by
  induction moves generalizing s t with
  | nil => exact same
  | cons m rest ih => exact ih (move_congr same m)

end State

namespace Scene

variable (s : Scene)

/-- The update that is read in an event, if there is one. -/
def readUpdate : Event → Option Update
  | .answer d answer _ _ => (s.underway d).bind fun plan => (plan.read answer).toOption
  | _ => none

theorem readUpdate_eq_some_iff {s : Scene} {d : Driver} {plan : Plan} {answer : Answer}
    {canRun : Bool} {heard : List Change} {u : Update} (waiting : s.underway d = some plan) :
    s.readUpdate (.answer d answer canRun heard) = some u ↔ plan.Reads answer u := by
  rw [← Plan.read_eq_ok_iff]
  simp only [readUpdate, waiting, Option.bind_some]
  exact toOption_eq_some_iff

/-- The changes that are made in an event because the managed groups were loaded. -/
def followUps (e : Event) : List Change :=
  match e, s.readUpdate e with
  | .answer _ _ _ heard, some u =>
    if u.loads && (s.state.update s.sync.settings u).isReady then heard else []
  | _, _ => []

/-- The moves of an event. -/
def moves (e : Event) : List Move :=
  let before := match e with
    | .change _ c => [.change c]
    | _ => []
  before ++ (s.readUpdate e).toList.map .update ++ (s.followUps e).map .change

/-- The moves of a run. -/
def movesOf (s : Scene) : List Event → List Move
  | [] => []
  | e :: events => s.moves e ++ movesOf (s.next e) events

theorem settled_eq_moveAll (e : Event) :
    s.settled e = s.state.moveAll s.sync.settings (s.moves e) := by
  cases e with
  | change canRun c => rfl
  | go d => rfl
  | answer d answer canRun heard =>
    cases waiting : s.underway d with
    | none => simp [settled, moves, readUpdate, followUps, waiting, State.moveAll]
    | some plan =>
      cases outcome : plan.read answer with
      | error failure =>
        simp [settled, moves, readUpdate, followUps, waiting, outcome, State.take, State.moveAll,
          Except.toOption]
      | ok u =>
        simp only [settled, moves, readUpdate, followUps, waiting, outcome, State.take,
          Option.bind_some, Except.toOption, Option.toList_some, List.map_cons, List.map_nil,
          List.nil_append, List.singleton_append, State.moveAll_cons, State.moveAll_changes]
        split
        · rfl
        · rfl

/-- The claim of a loop apart, an event does to the state what its moves do. -/
theorem unclaimed_next_moves (e : Event) :
    (s.next e).state.unclaimed = (s.state.moveAll s.sync.settings (s.moves e)).unclaimed := by
  rw [unclaimed_next, settled_eq_moveAll]

/-- The claim of a loop apart, a run does to the state what its moves do. -/
theorem unclaimed_run (events : List Event) :
    (s.run events).state.unclaimed =
      (s.state.moveAll s.sync.settings (s.movesOf events)).unclaimed := by
  induction events generalizing s with
  | nil => rfl
  | cons e rest ih =>
    have here := ih (s.next e)
    rw [settings_next] at here
    rw [movesOf, State.moveAll_append]
    exact here.trans (State.moveAll_congr (s.unclaimed_next_moves e) _)

end Scene
end LightSync.Reconciler
