import LightSync.Bridge.Exchange
import LightSync.Bridge.Message
import LightSync.Bridge.Target
import LightSync.Settings
import LightSync.Text.Utf8

/-!
# Exchanges over HTTP

How a request is put on the wire, and how what comes back is read. A connection that closes without
an answer is a failure of the transport, which a later attempt may not meet again.

## Main definitions

- `Connection`: an address without slashes at its end
- `Connection.wire?`: a request as a server sees it
- `Connection.answer`: the answer that some bytes are
- `Connection.exchange`: a request and its answer
-/

namespace LightSync.Bridge

structure Connection where
  baseUri : String
deriving DecidableEq, Repr

/-- A request as a server sees it. -/
structure WireRequest where
  method : String
  target : String
  contentType : Option String
  body : String
deriving DecidableEq, Repr

namespace Connection

def ofAddress (address : String) : Connection := ⟨trimSlashes address⟩

def ofSettings (s : BridgeSettings) : Connection := ofAddress s.baseUri

/-- A request as the server sees it; none if the address names nobody. -/
def wire? (c : Connection) (r : Request) : Option WireRequest :=
  (target? (c.baseUri ++ r.path)).map fun target =>
    { method := r.method.name
      target
      contentType := match r.method with
        | .get => none
        | .put => some "application/json"
      body := match r.method with
        | .get => ""
        | .put => r.body.write }

/-- An answer with the bytes of its body. -/
def answerOf (status : Nat) (body : List UInt8) : Answer :=
  .ok (.ofText status (Text.Utf8.decodeLossy body))

/-- The answer that comes back: none at all, or one with a status and the bytes after its head. One
that only announces another has that other one after its head. No status has more than three digits,
nor fewer. Whatever is no answer is a failure of the transport, for the given cause. -/
def answer (cause : String) : Option (Nat × List UInt8) → Answer
  | none => .error (.transport cause)
  | some (status, bytes) =>
    if Message.Head.isInterim status then
      match Message.readAnswer bytes bytes.length with
      | some (status, body) => answerOf status body
      | none => .error (.transport cause)
    else if 100 ≤ status && status ≤ 999 then
      answerOf status (if Message.Head.isBodiless status then [] else bytes)
    else .error (.transport cause)

/-- A request as the server sees it, if it sees one, and its answer. The cause is what the HTTP
library says if the request cannot be completed. -/
def exchange (c : Connection) (r : Request) (cause : String) (back : Option (Nat × List UInt8)) :
    Option WireRequest × Answer :=
  match c.wire? r with
  | some sent => (some sent, answer cause back)
  | none => (none, .error (.transport cause))

end Connection
end LightSync.Bridge
