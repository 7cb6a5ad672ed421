import LightSync.Proofs.NewestEntries
import LightSync.Proofs.Operations

/-!
# Keeping account of messages

A log counts every message that it records, keeps the newest of them, and has the text of the last
failure. Each operation of a reconciler leaves in the log the request that it makes, or the response
and the failure that it takes in, and nothing else.

## Main definitions

- `Message`: a request that was issued, or the response to one
- `ExchangeLog.Accounts`: a log that agrees with some messages and failures
- `issued`, `answered`, `Plan.failures`: what passes when a request is made, and when it is answered
-/

namespace LightSync

/-! ## Logs and messages -/

namespace Bridge

/-- What passes between the reconciler and the bridge. -/
inductive Message where
  | request (r : Request)
  | response (r : Request) (got : Response)

namespace Message

def entry : Message → Entry
  | request r => ⟨.sent, r.method.name, r.path, none, r.body⟩
  | response r got => ⟨.received, r.method.name, r.path, some got.status, got.body⟩

def isRequest : Message → Bool
  | request _ => true
  | response .. => false

def isResponse : Message → Bool
  | request _ => false
  | response .. => true

/-- A response with another status than 200. -/
def isRefusal : Message → Bool
  | request _ => false
  | response _ got => got.status ≠ 200

end Message

namespace ExchangeLog

def record (l : ExchangeLog) : Message → ExchangeLog
  | .request r => l.sent r.method.name r.path r.body
  | .response r got => l.received r.method.name r.path got.status got.body

/-- The log counts the messages, keeps the newest of them, and has the last of the failures. -/
structure Accounts (l : ExchangeLog) (room : Nat) (messages : List Message)
    (failures : List String) : Prop where
  capacity : l.capacity = room
  requests : l.requests = messages.countP (·.isRequest)
  replies : l.replies = messages.countP (·.isResponse)
  failedReplies : l.failedReplies = messages.countP (·.isRefusal)
  entries : l.entries = (messages.map Message.entry).drop (messages.length - room)
  lastError : l.lastError = failures.getLast?

theorem accounts_new (room : Nat) : (new room).Accounts room [] [] :=
  ⟨rfl, rfl, rfl, rfl, List.drop_nil.symm, rfl⟩

section Accounts

variable {l : ExchangeLog} {room : Nat} {messages : List Message} {failures : List String}

/-- To account for messages is to keep the newest of their entries, and to count all of them. -/
theorem accounts_iff_keeps :
    l.Accounts room messages failures ↔ l.Keeps room (messages.map Message.entry) failures := by
  have requests : (messages.map Message.entry).countP (·.direction = .sent) =
      messages.countP (·.isRequest) := by
    rw [List.countP_map]
    exact List.countP_congr fun m _ => by cases m <;> simp [Message.entry, Message.isRequest]
  have replies : (messages.map Message.entry).countP (·.direction = .received) =
      messages.countP (·.isResponse) := by
    rw [List.countP_map]
    exact List.countP_congr fun m _ => by cases m <;> simp [Message.entry, Message.isResponse]
  have refusals : (messages.map Message.entry).countP
      (fun e => e.direction = .received ∧ e.status ≠ some 200) =
      messages.countP (·.isRefusal) := by
    rw [List.countP_map]
    exact List.countP_congr fun m _ => by cases m <;> simp [Message.entry, Message.isRefusal]
  constructor
  · intro h
    have entries := h.entries
    rw [← List.length_map (f := Message.entry)] at entries
    obtain ⟨newest, length⟩ := eq_drop_iff.1 entries
    exact ⟨h.capacity, newest, length, h.requests.trans requests.symm, h.replies.trans replies.symm,
      h.failedReplies.trans refusals.symm, h.lastError⟩
  · intro h
    have entries := eq_drop_iff.2 ⟨h.newest, h.length⟩
    rw [List.length_map] at entries
    exact ⟨h.capacity, h.requests.trans requests, h.replies.trans replies,
      h.failedReplies.trans refusals, entries, h.lastError⟩

theorem Accounts.record (h : l.Accounts room messages failures) (m : Message) :
    (l.record m).Accounts room (messages ++ [m]) failures := by
  refine accounts_iff_keeps.2 ?_
  rw [List.map_append, ← List.append_nil failures]
  have kept := accounts_iff_keeps.1 h
  cases m with
  | request r => exact kept.apply (o := .sent r.method.name r.path r.body) rfl
  | response r got => exact kept.apply (o := .received r.method.name r.path got.status got.body) rfl

/-- A log that has the text of a failure accounts for it. -/
theorem Accounts.recordError (h : l.Accounts room messages failures) (message : String) :
    (l.recordError message).Accounts room messages (failures ++ [message]) :=
  ⟨h.capacity, h.requests, h.replies, h.failedReplies, h.entries, (List.getLast?_concat ..).symm⟩

/-- Records messages, and then how steps failed. -/
def recordAll (l : ExchangeLog) (messages : List Message) (failures : List String) : ExchangeLog :=
  failures.foldl ExchangeLog.recordError (messages.foldl ExchangeLog.record l)

theorem Accounts.foldl_record (h : l.Accounts room messages failures) (later : List Message) :
    (later.foldl ExchangeLog.record l).Accounts room (messages ++ later) failures := by
  induction later generalizing l messages with
  | nil => rwa [List.append_nil]
  | cons m rest ih =>
    rw [List.append_cons]
    exact ih (h.record m)

theorem Accounts.foldl_recordError (h : l.Accounts room messages failures) (later : List String) :
    (later.foldl ExchangeLog.recordError l).Accounts room messages (failures ++ later) := by
  induction later generalizing l failures with
  | nil => rwa [List.append_nil]
  | cons f rest ih =>
    rw [List.append_cons]
    exact ih (h.recordError f)

theorem Accounts.recordAll (h : l.Accounts room messages failures) (later : List Message)
    (failed : List String) :
    (l.recordAll later failed).Accounts room (messages ++ later) (failures ++ failed) :=
  (h.foldl_record later).foldl_recordError failed

end Accounts
end ExchangeLog
end Bridge

/-! ## What the operations record -/

namespace Reconciler

open Bridge

/-- The message that goes out when a caller who had nothing under way before has a request under
way afterwards. -/
def issued : Option Request → Option Request → List Message
  | none, some r => [.request r]
  | _, _ => []

/-- The message that comes in when the request that is under way is answered. -/
def answered : Option Request → Answer → List Message
  | some r, .ok got => [.response r got]
  | _, _ => []

/-- How a step fails whose request is answered, if it does. -/
def Plan.failures (plan : Plan) (answer : Answer) : List Failure :=
  match plan.read answer with
  | .error failure => [failure]
  | .ok _ => []

section Log

variable (r : Reconciler)

theorem log_noteAll (lines : List Line) : (r.noteAll lines).log = r.log := by
  unfold noteAll
  induction lines generalizing r with
  | nil => rfl
  | cons line rest ih => exact ih (r.note line)

theorem log_noteReply (path : String) (response : Response) :
    (r.noteReply path response).log = r.log := by
  unfold noteReply
  split
  · rfl
  · exact log_noteAll r _

theorem log_noteUpdate (plan : Plan) (answer : Answer) (u : Update) :
    (r.noteUpdate plan answer u).log = r.log := by
  unfold noteUpdate
  split
  · exact log_noteAll r _
  · exact (log_noteAll _ _).trans (log_noteAll r _)
  · exact log_noteReply r _ _
  · exact log_noteReply r _ _
  · rfl
  · rfl

theorem log_claimLoop (canRun : Bool) : (r.claimLoop canRun).log = r.log := by
  unfold claimLoop
  split <;> rfl

theorem log_change (canRun : Bool) (c : Change) : (r.change canRun c).log = r.log := by
  unfold change
  split
  · rfl
  · rfl
  · exact log_claimLoop _ canRun

theorem log_changeAll (canRun : Bool) (cs : List Change) :
    (r.changeAll canRun cs).log = r.log := by
  induction cs generalizing r with
  | nil => rfl
  | cons c rest ih => rw [changeAll_cons, ih, log_change]

theorem log_announce (plan : Plan) :
    (r.announce plan).log = r.log.record (.request plan.request) := by
  cases plan <;> rfl

theorem log_receive (request : Request) (answer : Answer) :
    (r.receive request answer).log = r.log.recordAll (answered (some request) answer) [] := by
  unfold receive
  split
  · rfl
  · split <;> rfl

theorem log_finish (plan : Plan) (answer : Answer) :
    (r.finish plan answer).1.log =
      r.log.recordAll [] ((plan.failures answer).map (·.message r.wording)) := by
  cases outcome : plan.read answer with
  | error failure =>
    simp only [finish, Plan.failures, outcome]
    rfl
  | ok u =>
    simp only [finish, Plan.failures, outcome]
    exact log_noteUpdate r plan answer u

/-- A step that is taken in leaves its response in the log, and the text of its failure. -/
theorem log_conclude (plan : Plan) (answer : Answer) (canRun : Bool) (heard : List Change) :
    (r.conclude plan answer canRun heard).1.log =
      r.log.recordAll (answered (some plan.request) answer)
        ((plan.failures answer).map (·.message r.wording)) := by
  have worded : (r.receive plan.request answer).wording = r.wording :=
    congrArg Prod.snd (setup_of_silent (silent_receive r plan.request answer))
  have finished : ((r.receive plan.request answer).finish plan answer).1.log =
      r.log.recordAll (answered (some plan.request) answer)
        ((plan.failures answer).map (·.message r.wording)) := by
    rw [log_finish, log_receive, worded]
    rfl
  unfold conclude
  simp only
  split
  · rw [log_changeAll, finished]
  · exact finished

theorem log_advanceLoop (id : Nat) (outcome : Outcome) :
    (r.advanceLoop id outcome).1.log = r.log := by
  unfold advanceLoop
  split
  · rfl
  · simp only
    split <;> rfl
  · rfl
  · rfl

theorem issued_self (o : Option Request) : issued o o = [] := by
  cases o <;> rfl

theorem issued_none (o : Option Request) : issued o none = [] := by
  cases o <;> rfl

/-- A loop that goes on leaves the request in the log that it now has under way. -/
theorem log_wakeLoop (id : Nat) :
    (r.wakeLoop id).1.log = r.log.recordAll
      (issued ((r.awaited id).map Plan.request)
        (((r.wakeLoop id).1.awaited id).map Plan.request)) [] := by
  rcases r.wakeLoop_cases id with ⟨same, -⟩ | ⟨l, found, fresh, woken⟩ | ⟨l, found, between, went⟩
  · rw [same, issued_self]
    rfl
  · have nothing : (r.wakeLoop id).1.awaited id = none := by
      rw [awaited_of_silent woken, awaited_setStage_of_none r id id rfl, if_pos rfl]
    rw [nothing, Option.map_none, issued_none]
    simp only [wakeLoop, found, fresh]
    rfl
  · have before : r.awaited id = none := by
      rw [awaited, found]
      exact between.waiting
    rcases went with ⟨idle, woken⟩ | ⟨plan, planned, woken⟩
    · have after : (r.wakeLoop id).1.awaited id = none := by
        rw [awaited_of_silent woken, awaited_setStage_of_none _ id id rfl, if_pos rfl]
      rw [after, Option.map_none, issued_none]
      rcases between with stage | stage <;> simp only [wakeLoop, found, stage, begin, idle] <;> rfl
    · have after : (r.wakeLoop id).1.awaited id = some plan := by
        rw [awaited_of_silent woken, awaited_setStage, if_pos rfl, found]
        rfl
      rw [before, after]
      rcases between with stage | stage <;> simp only [wakeLoop, found, stage, begin, planned] <;>
        exact log_announce _ plan

end Log

end Reconciler
end LightSync
