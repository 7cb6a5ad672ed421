import LightSync.Household.Host
import LightSync.Reconciler.Change
import LightSync.Bridge.Exchange

/-!
# A scripted bridge and a scripted home platform

Counterparts that answer as they were told to. The bridge answers a request with the first queued
reply for its method and path, else with the fixed one, else by a rule: it knows no other listing,
and it confirms every attribute of a write. While a request is under way, changes may be made and
time may pass.

## Main definitions

- `ScriptedReply`, `ScriptedBridge`, `ScriptedBridge.take`
- `ScriptedHost`
-/

namespace LightSync.Simulation

open Bridge Household
open Reconciler (Change)

/-- A reply that the bridge was told to give. -/
structure ScriptedReply where
  status : Nat
  /-- Its body; by default null for a GET, and for a PUT the confirmation of every attribute. -/
  body : Option Json
  /-- Changes made at once, while the request is under way. -/
  during : List Change
  delayMs : Nat
  unreachable : Bool

/-- What the bridge was told. -/
structure ScriptedBridge where
  queued : List ((Method × String) × ScriptedReply)
  fixed : List ((Method × String) × ScriptedReply)
  unreachable : List String

/-- An answer under way. -/
structure Delivery where
  during : List Change
  delayMs : Nat
  answer : Answer

/-- The confirmation of every attribute of a write. -/
def echo (path : String) : Json → Json
  | .obj members => .arr (members.map fun (key, value) =>
      .obj [("success", .obj [(path ++ "/" ++ key, value)])])
  | _ => .arr []

/-- The body of a reply without one. -/
def defaultBody (request : Request) : Json :=
  match request.method with
  | .get => .null
  | .put => echo request.path request.body

/-- The reply to a request that nothing was told about. -/
def defaultReply (request : Request) : ScriptedReply :=
  match request.method with
  | .get =>
    let error := Json.obj [("address", .str request.path), ("type", .int 3)]
    ⟨404, some (.arr [.obj [("error", error)]]), [], 0, false⟩
  | .put => ⟨200, none, [], 0, false⟩

namespace ScriptedBridge

/-- A bridge that answers GET requests of some paths. -/
def ofListings (listings : List (String × Json)) : ScriptedBridge :=
  ⟨[], listings.map fun (path, body) => ((.get, path), ⟨200, some body, [], 0, false⟩), []⟩

def enqueue (b : ScriptedBridge) (key : Method × String) (reply : ScriptedReply) : ScriptedBridge :=
  { b with queued := b.queued ++ [(key, reply)] }

/-- Sets or removes the fixed reply. -/
def fix (b : ScriptedBridge) (key : Method × String) (reply : Option ScriptedReply) :
    ScriptedBridge :=
  let others := b.fixed.filter (·.1 ≠ key)
  { b with fixed := (reply.map fun reply => (key, reply)).toList ++ others }

def setUnreachable (b : ScriptedBridge) (path : String) (value : Bool) : ScriptedBridge :=
  let others := b.unreachable.filter (· ≠ path)
  { b with unreachable := if value then path :: others else others }

/-- The reply to a request, and the bridge after it. -/
def reply (b : ScriptedBridge) (request : Request) : ScriptedBridge × ScriptedReply :=
  let key := (request.method, request.path)
  match b.queued.find? (·.1 = key) with
  | some (_, reply) => ({ b with queued := b.queued.eraseP (·.1 = key) }, reply)
  | none =>
    match b.fixed.find? (·.1 = key) with
    | some (_, reply) => (b, reply)
    | none => (b, defaultReply request)

def take (b : ScriptedBridge) (request : Request) : ScriptedBridge × Delivery :=
  let lost := b.unreachable.contains request.path
  let (b, reply) := b.reply request
  let answer : Answer :=
    if lost || reply.unreachable then
      .error (.ofStatus request.method.name request.path 503 .null)
    else .ok ⟨reply.status, reply.body.getD (defaultBody request)⟩
  (b, ⟨reply.during, reply.delayMs, answer⟩)

end ScriptedBridge

/-- What the home platform was told. It records the calls it gets. -/
structure ScriptedHost where
  /-- Its entities, ascending by id. -/
  entities : List Entity
  /-- Entities whose calls fail, and with which message. -/
  failing : List (String × String)
  /-- Calls not yet looked at, oldest first. -/
  calls : List HostCall

namespace ScriptedHost

/-- Puts an entity in its place; one with the same id is replaced. -/
def insertEntity (e : Entity) : List Entity → List Entity
  | [] => [e]
  | x :: rest =>
    if e.entityId < x.entityId then e :: x :: rest
    else if e.entityId = x.entityId then e :: rest
    else x :: insertEntity e rest

def ofEntities (entities : List Entity) : ScriptedHost :=
  ⟨entities.foldl (fun done e => insertEntity e done) [], [], []⟩

def insert (h : ScriptedHost) (e : Entity) : ScriptedHost :=
  { h with entities := insertEntity e h.entities }

def knows (h : ScriptedHost) (entityId : String) : Bool :=
  h.entities.any (·.entityId = entityId)

def remove (h : ScriptedHost) (entityId : String) : ScriptedHost :=
  { h with entities := h.entities.filter (·.entityId ≠ entityId) }

/-- Makes calls for an entity fail with a message, or succeed again. -/
def setFailing (h : ScriptedHost) (entityId : String) (message : Option String) : ScriptedHost :=
  let others := h.failing.filter (·.1 ≠ entityId)
  { h with failing := (message.map fun m => (entityId, m)).toList ++ others }

end ScriptedHost

instance : Host ScriptedHost where
  entities h := h.entities
  entity? h entityId := h.entities.find? (·.entityId = entityId)
  perform h call :=
    ({ h with calls := h.calls ++ [call] },
      match h.failing.lookup call.entityId with
      | some message => .error (.host message)
      | none => .ok ())

end LightSync.Simulation
