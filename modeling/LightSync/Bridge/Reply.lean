import LightSync.Json.Record

/-!
# Replies to PUT requests

The bridge answers a write with a list that has one item per attribute: an attribute it applied,
with its path and value, or an error. A body in which one item is out of line is no reply at all,
and acknowledges nothing.

## Main definitions

- `ReplyError`, `ReplyItem`, `Reply`
- `Reply.ofBody?`: the reply in a body
- `Reply.acknowledged`: the value applied to a path
-/

namespace LightSync.Bridge

/-- An attribute that was refused. -/
structure ReplyError where
  kind : Int
  address : String
  description : String
deriving DecidableEq, Repr

namespace ReplyError

def toJson (e : ReplyError) : Json :=
  .obj [("type", .int e.kind), ("address", .str e.address), ("description", .str e.description)]

def ofJson? (j : Json) : Option ReplyError := do
  let [kind, address, description] ← j.slots? ["type", "address", "description"] | none
  return {
    kind := ← kind.withDefault 0 Json.int64?
    address := ← address.withDefault "" Json.string?
    description := ← description.withDefault "" Json.string? }

end ReplyError

inductive ReplyItem where
  /-- Applied attributes: values by path. -/
  | success (values : List (String × Json))
  | error (e : ReplyError)

namespace ReplyItem

def toJson : ReplyItem → Json
  | success values => .obj [("success", .obj values)]
  | error e => .obj [("error", e.toJson)]

def ofJson? (j : Json) : Option ReplyItem :=
  match j.variant? with
  | some ("success", content) =>
    match content.value? with
    | some (.obj values) => some (success values)
    | _ => none
  | some ("error", content) => (ReplyError.ofJson? content).map error
  | _ => none

end ReplyItem

structure Reply where
  items : List ReplyItem

namespace Reply

def empty : Reply := ⟨[]⟩

/-- The reply in a body, if the whole body is one. -/
def ofBody? (body : Json) : Option Reply := (Json.list? ReplyItem.ofJson? body).map mk

/-- The value applied to a path, by the first item that names it. -/
def acknowledged (r : Reply) (path : String) : Option Json :=
  r.items.findSome? fun
    | .success values => Json.lookup path values
    | .error _ => none

def errors (r : Reply) : List ReplyError :=
  r.items.filterMap fun
    | .success _ => none
    | .error e => some e

end Reply
end LightSync.Bridge
