import LightSync.Reconciler.Basic

/-!
# Commands past the reconciliation

A command can be sent straight to a set of lights. If a group has exactly these lights, one request
to it is enough; otherwise each light gets its own, in ascending order, with a pause between them.

## Main definitions

- `State.directPaths`: the paths of the requests
- `Reconciler.finishDirect`: takes in the answer to one of them
-/

namespace LightSync.Reconciler

open Bridge

/-- Milliseconds between the commands to two lights; a bridge throttles bursts. -/
def lightSpacingMs : Nat := 200

/-- The paths to which a command for exactly these lights is sent. -/
def State.directPaths (s : State) (lights : NameSet) (command : Command) : List String :=
  if lights.isEmpty || !command.isValid then []
  else match s.allGroups.find? (·.lights.value = some lights) with
    | some g => [g.actionPath]
    | none => lights.toList.map fun light => "/lights/" ++ light ++ "/state"

/-- Takes in the answer to a direct command. -/
def finishDirect (r : Reconciler) (request : Request) (answer : Answer) :
    Reconciler × Except Failure Unit :=
  match answer.accepted request with
  | .ok response => (r.noteWrite request.path response, .ok ())
  | .error failure => (r, .error failure)

end LightSync.Reconciler
