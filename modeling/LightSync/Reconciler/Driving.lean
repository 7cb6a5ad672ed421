import LightSync.Reconciler.Direct
import LightSync.Reconciler.Loop

/-!
# Driving the reconciler by hand

Steps and direct commands written as plain sequences of actions, over any environment in which a
reconciler can have its requests answered and can wait. While it waits for an answer, and between
two operations that are not made as one, the environment may change the reconciler.

## Main definitions

- `Environment`
- `finishStep`: takes in an answer, and tells who waits for the managed groups
- `step`, `drain`: one step, or steps until there is nothing to do
- `sendDirect`: one command to several paths
-/

namespace LightSync.Reconciler

open Bridge

/-- Something in which a reconciler lives. -/
class Environment (ε : Type) where
  sync : ε → Reconciler
  withSync : ε → Reconciler → ε
  /-- Has a request answered. -/
  exchange : ε → Request → ε × Answer
  /-- Waits some milliseconds. -/
  pause : ε → Nat → ε
  /-- Lets others act between two operations. -/
  interleave : ε → ε
  /-- Tells that the managed groups were loaded. -/
  ready : ε → ε

namespace Environment

variable {ε : Type} [Environment ε]

/-- Applies an operation of the reconciler. -/
def onSync (e : ε) (f : Reconciler → Reconciler) : ε := withSync e (f (sync e))

/-- Makes a request and records the exchange. -/
def request (e : ε) (r : Request) : ε × Answer :=
  let (e, answer) := exchange e r
  (onSync e (·.receive r answer), answer)

/-- Takes in the answer to the request of a step. -/
def finishStep (e : ε) (plan : Plan) (answer : Answer) : ε × Outcome :=
  let (r, outcome, loaded) := (sync e).finish plan answer
  let e := withSync e r
  (if loaded then ready e else e, outcome)

def step (e : ε) : ε × Outcome :=
  match (sync e).begin false with
  | (r, none) => (withSync e r, .idle)
  | (r, some plan) =>
    let (e, answer) := request (withSync e (r.announce plan)) plan.request
    finishStep e plan answer

/-- Greatest number of steps made by one `drain`. -/
def drainLimit : Nat := 100

/-- Makes at most `limit` steps, until one finds nothing to do or fails. -/
def drainUpTo (e : ε) : Nat → ε × List Outcome
  | 0 => (e, [])
  | limit + 1 =>
    match step e with
    | (e, .completed s) =>
      let (e, outcomes) := drainUpTo e limit
      (e, .completed s :: outcomes)
    | (e, outcome) => (e, [outcome])

/-- Makes steps until one finds nothing to do or fails. -/
def drain (e : ε) : ε × List Outcome := drainUpTo e drainLimit

def sendTo (e : ε) (command : Command) (path : String) : ε × Except Failure Unit :=
  let r : Request := .put path command.toJson
  let (e, answer) := request (onSync e (·.send r)) r
  let (r, result) := (sync e).finishDirect r answer
  (withSync e r, result)

/-- Sends a command to the remaining paths, with a pause before each, up to the first failure. -/
def sendRest (e : ε) (command : Command) : List String → ε × Except Failure Unit
  | [] => (e, .ok ())
  | path :: rest =>
    match sendTo (pause e lightSpacingMs) command path with
    | (e, .ok ()) => sendRest e command rest
    | (e, .error failure) => (e, .error failure)

/-- Sends a command straight to a set of lights. -/
def sendDirect (e : ε) (lights : NameSet) (command : Command) : ε × Except Failure Unit :=
  match (sync e).state.directPaths lights command with
  | [] => (e, .ok ())
  | path :: rest =>
    match sendTo e command path with
    | (e, .ok ()) => sendRest e command rest
    | (e, .error failure) => (e, .error failure)

end Environment
end LightSync.Reconciler
