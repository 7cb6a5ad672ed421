import LightSync.Json.Record

/-!
# A log of exchanges

The newest exchanges with the bridge are kept for diagnosis, the oldest dropped first. Counters run
over all of them, dropped or not.

## Main definitions

- `Entry`: one request or one answer
- `ExchangeLog`, with `sent`, `received`, `recordError` and `clear`
- `ExchangeLog.lastReply`: the newest kept answer for a path
- `Summary`: the counters
-/

namespace LightSync.Bridge

/-- Which way an exchange went. -/
inductive Direction where
  | sent
  | received
deriving DecidableEq, Repr

namespace Direction

def name : Direction → String
  | sent => "sent"
  | received => "received"

def ofJson? (j : Json) : Option Direction :=
  match j.unitVariant? with
  | some "sent" => some sent
  | some "received" => some received
  | _ => none

end Direction

/-- One request or one answer. Only answers have a status. -/
structure Entry where
  direction : Direction
  method : String
  path : String
  status : Option Nat
  body : Json

/-- An entry with the seconds from the start of the log to it. -/
structure TimedEntry extends Entry where
  elapsed : Float

namespace TimedEntry

def toJson (e : TimedEntry) : Json :=
  .obj [
    ("direction", .str e.direction.name),
    ("method", .str e.method),
    ("path", .str e.path),
    ("status", .ofOption .ofNat e.status),
    ("body", e.body),
    ("elapsed", .ofFloat e.elapsed)]

def ofJson? (j : Json) : Option TimedEntry := do
  let [direction, method, path, status, body, elapsed] ←
    j.slots? ["direction", "method", "path", "status", "body", "elapsed"] | none
  return {
    direction := ← direction.required Direction.ofJson?
    method := ← method.required Json.string?
    path := ← path.required Json.string?
    status := (← status.optional Json.uint16?).map (·.toNat)
    body := ← body.required Json.value?
    elapsed := ← elapsed.required Json.float? }

end TimedEntry

structure Summary where
  requests : Nat
  replies : Nat
  /-- Answers with another status than 200. -/
  failedReplies : Nat
  retained : Nat
  lastError : Option String
deriving DecidableEq, Repr

namespace Summary

def toJson (s : Summary) : Json :=
  .obj [
    ("requests", .ofNat s.requests),
    ("replies", .ofNat s.replies),
    ("failed_replies", .ofNat s.failedReplies),
    ("retained", .ofNat s.retained),
    ("last_error", .ofOption .str s.lastError)]

def ofJson? (j : Json) : Option Summary := do
  let [requests, replies, failed, retained, lastError] ←
    j.slots? ["requests", "replies", "failed_replies", "retained", "last_error"] | none
  return {
    requests := ← requests.required Json.nat64?
    replies := ← replies.required Json.nat64?
    failedReplies := ← failed.required Json.nat64?
    retained := ← retained.required Json.nat64?
    lastError := ← lastError.optional Json.string? }

end Summary

/-- The newest exchanges, oldest first, and the counters. -/
structure ExchangeLog where
  capacity : Nat
  entries : List Entry
  requests : Nat
  replies : Nat
  failedReplies : Nat
  lastError : Option String

namespace ExchangeLog

def defaultCapacity : Nat := 100

/-- An empty log that keeps at most `capacity` entries. -/
def new (capacity : Nat) : ExchangeLog := ⟨capacity, [], 0, 0, 0, none⟩

/-- Keeps one more entry, dropping the oldest if there is no room. -/
def push (l : ExchangeLog) (e : Entry) : ExchangeLog :=
  if l.capacity = 0 then l
  else if l.entries.length = l.capacity then { l with entries := l.entries.drop 1 ++ [e] }
  else { l with entries := l.entries ++ [e] }

def sent (l : ExchangeLog) (method path : String) (body : Json) : ExchangeLog :=
  { l with requests := l.requests + 1 }.push ⟨.sent, method, path, none, body⟩

def received (l : ExchangeLog) (method path : String) (status : Nat) (body : Json) : ExchangeLog :=
  { l with
    replies := l.replies + 1
    failedReplies := if status = 200 then l.failedReplies else l.failedReplies + 1 }.push
    ⟨.received, method, path, some status, body⟩

def recordError (l : ExchangeLog) (message : String) : ExchangeLog :=
  { l with lastError := some message }

/-- The newest kept answer for a path. -/
def lastReply (l : ExchangeLog) (path : String) : Option Entry :=
  l.entries.reverse.find? fun e => e.direction = .received && e.path = path

/-- Forgets everything, the counters too. -/
def clear (l : ExchangeLog) : ExchangeLog := new l.capacity

def summary (l : ExchangeLog) : Summary :=
  ⟨l.requests, l.replies, l.failedReplies, l.entries.length, l.lastError⟩

end ExchangeLog
end LightSync.Bridge
