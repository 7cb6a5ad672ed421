import LightSync.Bridge.ExchangeLog
import Mathlib.Data.List.DropRight
import Mathlib.Data.List.Induction

/-!
# What a log keeps of its history

A log that has room for some entries keeps the newest of all that were exchanged since it was last
cleared, as many as there is room for. Its counters run over all of them, kept or not, and the last
failure is the last one that was recorded since. The answer that is found for a path is the newest
one that is kept; there is none exactly if every answer for the path was dropped.

## Main definitions

- `ExchangeLog.Operation`, `ExchangeLog.run`: what is done with a log
- `ExchangeLog.exchanged`, `ExchangeLog.failures`: what was recorded since the log was last cleared
- `ExchangeLog.Keeps`: a log that agrees with what was recorded
- `Entry.Answers`, `IsNewestReply`: answers for a path, and the newest one among entries

## Main results

- `ExchangeLog.log_keeps_newest`: what a log holds after any run
-/

namespace LightSync.Bridge

/-- The entry is an answer for the path. -/
def Entry.Answers (e : Entry) (path : String) : Prop := e.direction = .received ∧ e.path = path

/-- The last one among the entries that is an answer for the path. -/
def IsNewestReply (path : String) (entries : List Entry) (e : Entry) : Prop :=
  ∃ older newer, entries = older ++ e :: newer ∧ e.Answers path ∧ ∀ x ∈ newer, ¬ x.Answers path

namespace ExchangeLog

/-- What is done with a log. -/
inductive Operation where
  | sent (method path : String) (body : Json)
  | received (method path : String) (status : Nat) (body : Json)
  | recordError (message : String)
  | clear

def apply (l : ExchangeLog) : Operation → ExchangeLog
  | .sent method path body => l.sent method path body
  | .received method path status body => l.received method path status body
  | .recordError message => l.recordError message
  | .clear => l.clear

def run (l : ExchangeLog) (operations : List Operation) : ExchangeLog := operations.foldl apply l

namespace Operation

/-- The request or answer that the operation records. -/
def recorded? : Operation → Option Entry
  | sent method path body => some ⟨.sent, method, path, none, body⟩
  | received method path status body => some ⟨.received, method, path, some status, body⟩
  | recordError _ => none
  | clear => none

/-- The failure that the operation records. -/
def failure? : Operation → Option String
  | recordError message => some message
  | _ => none

def isClear : Operation → Bool
  | clear => true
  | _ => false

end Operation

/-! ## Keeping one more entry -/

section Push

variable (l : ExchangeLog) (e : Entry)

/-- Keeping one more entry changes only the entries. -/
theorem push_eq : l.push e = { l with entries := (l.push e).entries } := by
  unfold push
  split
  · rfl
  · split <;> rfl

@[simp] theorem capacity_push : (l.push e).capacity = l.capacity := by rw [push_eq]

@[simp] theorem requests_push : (l.push e).requests = l.requests := by rw [push_eq]

@[simp] theorem replies_push : (l.push e).replies = l.replies := by rw [push_eq]

@[simp] theorem failedReplies_push : (l.push e).failedReplies = l.failedReplies := by rw [push_eq]

@[simp] theorem lastError_push : (l.push e).lastError = l.lastError := by rw [push_eq]

variable {l} in
/-- The newest entries are kept. -/
theorem entries_push {all : List Entry}
    (newest : l.entries = all.drop (all.length - l.capacity)) :
    (l.push e).entries = (all ++ [e]).drop (all.length + 1 - l.capacity) := by
  have kept : l.entries.length = all.length - (all.length - l.capacity) := by
    rw [newest, List.length_drop]
  unfold push
  split
  · next none =>
    -- Without any room nothing is dropped either, as nothing was ever kept.
    have beyond : all.length + 1 - l.capacity = (all ++ [e]).length := by
      rw [none, List.length_append]
      rfl
    have nothing : l.entries = [] := by rw [newest, none, Nat.sub_zero, List.drop_length]
    rw [beyond, List.drop_length, nothing]
  · split
    · next some full =>
      have early : all.length + 1 - l.capacity ≤ all.length := by omega
      have one : all.length - l.capacity + 1 = all.length + 1 - l.capacity := by omega
      rw [List.drop_append_of_le_length early, newest, List.drop_drop, one]
    · next some fewer =>
      have before : all.length - l.capacity = 0 := by omega
      have after : all.length + 1 - l.capacity = 0 := by omega
      rw [newest, before, after, List.drop_zero, List.drop_zero]

end Push

/-! ## What was recorded -/

/-- The operations after the last one that clears the log. -/
def sinceClear (operations : List Operation) : List Operation :=
  operations.rtakeWhile fun o => !o.isClear

/-- All requests and answers since the log was last cleared, the newest one last. -/
def exchanged (operations : List Operation) : List Entry :=
  (sinceClear operations).filterMap Operation.recorded?

/-- All failures since the log was last cleared. -/
def failures (operations : List Operation) : List String :=
  (sinceClear operations).filterMap Operation.failure?

/-- The log keeps the newest of all entries, as many as there is room for, counts all of them, and
has the last failure. -/
structure Keeps (l : ExchangeLog) (room : Nat) (all : List Entry) (failures : List String) :
    Prop where
  capacity : l.capacity = room
  newest : l.entries <:+ all
  length : l.entries.length = min room all.length
  requests : l.requests = all.countP (·.direction = .sent)
  replies : l.replies = all.countP (·.direction = .received)
  failedReplies : l.failedReplies =
    all.countP fun e => e.direction = .received ∧ e.status ≠ some 200
  lastError : l.lastError = failures.getLast?

/-- The newest entries are what is left when as many are dropped as there is no room for. -/
theorem eq_drop_iff {kept all : List Entry} {room : Nat} :
    kept = all.drop (all.length - room) ↔ kept <:+ all ∧ kept.length = min room all.length := by
  constructor
  · rintro rfl
    refine ⟨List.drop_suffix .., ?_⟩
    rw [List.length_drop]
    omega
  · rintro ⟨suffix, length⟩
    have dropped : all.length - min room all.length = all.length - room := by omega
    rw [← dropped, ← length]
    exact List.suffix_iff_eq_drop.1 suffix

theorem keeps_new (room : Nat) : (new room).Keeps room [] [] :=
  ⟨rfl, List.suffix_rfl, (Nat.min_zero room).symm, rfl, rfl, rfl, rfl⟩

section Keeps

variable {l : ExchangeLog} {room : Nat} {all : List Entry} {failures : List String}

/-- One more entry is kept, at the cost of the oldest one if there is no room. -/
theorem Keeps.push (h : l.Keeps room all failures) {t : ExchangeLog}
    (capacity : t.capacity = l.capacity) (entries : t.entries = l.entries) (e : Entry) :
    (t.push e).entries <:+ all ++ [e] ∧
      (t.push e).entries.length = min room (all ++ [e]).length := by
  have room : t.capacity = room := capacity.trans h.capacity
  have newest : t.entries = all.drop (all.length - t.capacity) := by
    rw [room, entries]
    exact eq_drop_iff.2 ⟨h.newest, h.length⟩
  refine eq_drop_iff.1 ?_
  rw [entries_push e newest, room, List.length_append, List.length_singleton]

/-- Whatever is recorded, the log agrees with what was recorded. -/
theorem Keeps.apply (h : l.Keeps room all failures) {o : Operation} (goes : o.isClear = false) :
    (l.apply o).Keeps room (all ++ o.recorded?.toList) (failures ++ o.failure?.toList) := by
  cases o with
  | sent method path body =>
    obtain ⟨newest, length⟩ := h.push (t := { l with requests := l.requests + 1 }) rfl rfl
      ⟨.sent, method, path, none, body⟩
    refine ⟨(capacity_push ..).trans h.capacity, newest, length, ?_, ?_, ?_, ?_⟩
    all_goals simp [ExchangeLog.apply, sent, Operation.recorded?, Operation.failure?, h.requests,
      h.replies, h.failedReplies, h.lastError]
  | received method path status body =>
    obtain ⟨newest, length⟩ := h.push (t := { l with
      replies := l.replies + 1
      failedReplies := if status = 200 then l.failedReplies else l.failedReplies + 1 }) rfl rfl
      ⟨.received, method, path, some status, body⟩
    refine ⟨(capacity_push ..).trans h.capacity, newest, length, ?_, ?_, ?_, ?_⟩
    all_goals by_cases ok : status = 200 <;> simp [ExchangeLog.apply, received, Operation.recorded?,
      Operation.failure?, h.requests, h.replies, h.failedReplies, h.lastError, ok]
  | recordError message =>
    have same : all ++ (Operation.recordError message).recorded?.toList = all := List.append_nil all
    rw [same]
    exact ⟨h.capacity, h.newest, h.length, h.requests, h.replies, h.failedReplies,
      (List.getLast?_concat ..).symm⟩
  | clear => cases goes

/-- The answer that is found for a path is the newest one that is kept. -/
theorem lastReply_eq_some_iff {path : String} {e : Entry} :
    l.lastReply path = some e ↔ IsNewestReply path l.entries e := by
  -- The search goes through the entries backwards, so what it passes is newer than what it finds.
  rw [lastReply, List.find?_eq_some_iff_append, IsNewestReply]
  simp only [Bool.and_eq_true, decide_eq_true_eq, Bool.not_eq_true', Bool.and_eq_false_iff,
    decide_eq_false_iff_not]
  constructor
  · rintro ⟨answers, newer, older, split, others⟩
    refine ⟨older.reverse, newer.reverse, ?_, answers, ?_⟩
    · rw [← List.reverse_reverse l.entries, split]
      simp
    · rintro x mem ⟨received, same⟩
      rcases others x (List.mem_reverse.1 mem) with no | no
      · exact no received
      · exact no same
  · rintro ⟨older, newer, split, answers, others⟩
    refine ⟨answers, newer.reverse, older.reverse, ?_, ?_⟩
    · rw [split]
      simp
    · exact fun x mem => not_and_or.1 (others x (List.mem_reverse.1 mem))

/-- No answer is found for a path exactly if all there ever were are among the entries that were
dropped. -/
theorem Keeps.lastReply_eq_none_iff (h : l.Keeps room all failures) {path : String} :
    l.lastReply path = none ↔
      ∀ i e, all[i]? = some e → e.Answers path → i + room < all.length := by
  have kept : l.entries = all.drop (all.length - room) := eq_drop_iff.2 ⟨h.newest, h.length⟩
  have unanswered : l.lastReply path = none ↔ ∀ e ∈ l.entries, ¬ e.Answers path := by
    simp [lastReply, Entry.Answers]
  rw [unanswered, kept]
  constructor
  · intro none i e here answers
    by_contra early
    refine none e (List.mem_iff_getElem?.2 ⟨i - (all.length - room), ?_⟩) answers
    have place : all.length - room + (i - (all.length - room)) = i := by omega
    rw [List.getElem?_drop, place, here]
  · intro dropped e mem answers
    obtain ⟨i, here⟩ := List.mem_iff_getElem?.1 mem
    rw [List.getElem?_drop] at here
    have early := dropped _ e here answers
    omega

end Keeps

/-! ## Runs -/

theorem sinceClear_concat (operations : List Operation) (last : Operation) :
    sinceClear (operations ++ [last]) =
      if last.isClear then [] else sinceClear operations ++ [last] := by
  rw [sinceClear, List.rtakeWhile_concat]
  cases last.isClear <;> rfl

/-- After any run a log of the given capacity keeps the newest entries, counts all of them, and
has the last failure. -/
theorem keeps_run (room : Nat) (operations : List Operation) :
    ((new room).run operations).Keeps room (exchanged operations) (failures operations) := by
  -- From the end: if the last operation clears the log, all before it is forgotten.
  induction operations using List.reverseRecOn with
  | nil => exact keeps_new room
  | append_singleton operations last ih =>
    have next : (new room).run (operations ++ [last]) = ((new room).run operations).apply last := by
      rw [run, List.foldl_append]
      rfl
    rw [next, exchanged, failures, sinceClear_concat]
    cases goes : last.isClear with
    | true =>
      have cleared : ((new room).run operations).apply last = new room := by
        cases last with
        | clear => exact congrArg new ih.capacity
        | _ => cases goes
      rw [cleared]
      exact keeps_new room
    | false =>
      have one {α : Type} (f : Operation → Option α) : [last].filterMap f = (f last).toList := by
        cases here : f last <;> simp [here]
      rw [if_neg Bool.false_ne_true, List.filterMap_append, List.filterMap_append, one, one]
      exact ih.apply goes

/-- Whatever was done with a log, it keeps the newest entries since it was cleared, in order and as
many as there is room for; it counts all of them, dropped or not, and has the last failure. The
answer found for a path is the newest one that is kept, and none is found exactly if all there were
are among those that were dropped. Clearing it leaves its room. -/
theorem log_keeps_newest (room : Nat) (operations : List Operation) :
    let l := (new room).run operations
    let all := exchanged operations
    l.Keeps room all (failures operations) ∧
      l.summary = ⟨l.requests, l.replies, l.failedReplies, min room all.length, l.lastError⟩ ∧
      l.clear = new room ∧
      ∀ path, (∀ e, l.lastReply path = some e ↔ IsNewestReply path l.entries e) ∧
        (l.lastReply path = none ↔
          ∀ i e, all[i]? = some e → e.Answers path → i + room < all.length) := by
  have keeps := keeps_run room operations
  refine ⟨keeps, ?_, congrArg new keeps.capacity, fun path => ⟨fun e => ?_, ?_⟩⟩
  · rw [summary, keeps.length]
  · exact lastReply_eq_some_iff
  · exact keeps.lastReply_eq_none_iff

/-- With room for one entry, the answer takes the place of its request, and both are counted. -/
example : ((new 1).run [.sent "GET" "/lights" .null, .received "GET" "/lights" 404 .null]).summary =
    ⟨1, 1, 1, 1, none⟩ := rfl

end ExchangeLog
end LightSync.Bridge
