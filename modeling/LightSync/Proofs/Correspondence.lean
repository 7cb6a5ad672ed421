import LightSync.Proofs.Accounting
import LightSync.Proofs.Convergence
import LightSync.Proofs.Scene

/-!
# The log accounts for every exchange

A reconciler is driven by hands and by its loops, and meanwhile direct commands are sent. Whoever
makes a request has it under way until it is answered. The log is compared with what these callers
have under way and with the answers that they get: it counts every request and every response, keeps
the newest of them, and has the text of the failure of the last step that failed. A direct command
that fails leaves no text there.

## Main definitions

- `Errand`: where somebody stands who sends a direct command
- `Switchboard`, `Switchboard.next`: a reconciler that is driven, and direct commands beside it
- `Switchboard.messages`, `Switchboard.failures`: what is exchanged in a run, and how steps fail

## Main results

- `Switchboard.underway_next_of_other`: an event concerns the requests of nobody but its caller
- `Switchboard.exists_run_sendDirect`: a direct command that is sent is one of the runs
-/

namespace LightSync.Reconciler

open Bridge

/-! ## Direct commands beside the steps -/

/-- Where somebody stands who sends direct commands. -/
inductive Errand where
  | idle
  /-- The request to a path is under way, and the remaining paths follow. -/
  | awaiting (command : Command) (path : String) (rest : List String)
  /-- The pause before the next of some paths. -/
  | pausing (command : Command) (paths : List String)

namespace Errand

/-- The request that is under way. -/
def request? : Errand → Option Request
  | awaiting command path _ => some (.put path command.toJson)
  | _ => none

/-- After a request was answered: up to the first failure, the remaining paths follow. -/
def after (command : Command) : List String → Except Failure Unit → Errand
  | [], _ => idle
  | _, .error _ => idle
  | paths, .ok () => pausing command paths

end Errand

/-- A reconciler that is driven, and whoever sends direct commands. -/
structure Switchboard where
  scene : Scene
  errands : Nat → Errand

/-- Who makes requests. -/
inductive Caller where
  | driver (d : Driver)
  | sender (n : Nat)

namespace Switchboard

/-- A reconciler that knows nothing of its bridge, before anything happens. -/
def new (settings : SyncSettings) (wording : Wording) : Switchboard :=
  ⟨.new settings wording, fun _ => .idle⟩

abbrev sync (s : Switchboard) : Reconciler := s.scene.sync

/-- Somebody who sends direct commands goes on, which concerns the reconciler. -/
def put (s : Switchboard) (n : Nat) (sync : Reconciler) (errand : Errand) : Switchboard :=
  ⟨{ s.scene with sync }, fun m => if m = n then errand else s.errands m⟩

/-- The request of a caller that is under way. -/
def underway (s : Switchboard) : Caller → Option Request
  | .driver d => (s.scene.underway d).map Plan.request
  | .sender n => (s.errands n).request?

inductive Event where
  /-- A step is made, or a change. -/
  | scene (e : Scene.Event)
  /-- Somebody who has nothing to send begins to send a command to some lights. -/
  | command (n : Nat) (lights : NameSet) (command : Command)
  /-- The pause between two lights is over. -/
  | resume (n : Nat)
  /-- The answer to the request of a direct command arrives. -/
  | reply (n : Nat) (answer : Answer)

/-- Sends a command to the first of some paths. -/
def dispatch (s : Switchboard) (n : Nat) (command : Command) : List String → Switchboard
  | [] => s
  | path :: rest =>
    s.put n (s.sync.send (.put path command.toJson)) (.awaiting command path rest)

def next (s : Switchboard) : Event → Switchboard
  | .scene e => { s with scene := s.scene.next e }
  | .command n lights command =>
    match s.errands n with
    | .idle => s.dispatch n command (s.sync.state.directPaths lights command)
    | _ => s
  | .resume n =>
    match s.errands n with
    | .pausing command paths => s.dispatch n command paths
    | _ => s
  | .reply n answer =>
    match s.errands n with
    | .awaiting command path rest =>
      let request : Request := .put path command.toJson
      let done := (s.sync.receive request answer).finishDirect request answer
      s.put n done.1 (.after command rest done.2)
    | _ => s

abbrev run (s : Switchboard) (events : List Event) : Switchboard := Run.after next s events

/-! ## What is exchanged -/

/-- Whom an event is about, and the answer that it brings. -/
def Event.call : Event → Option (Caller × Option Answer)
  | .scene (.change ..) => none
  | .scene (.go d) => some (.driver d, none)
  | .scene (.answer d answer ..) => some (.driver d, some answer)
  | .command n .. => some (.sender n, none)
  | .resume n => some (.sender n, none)
  | .reply n answer => some (.sender n, some answer)

/-- What is exchanged in an event: the caller gets an answer, or has a request under way afterwards
that was not under way before. -/
def messagesIn (s : Switchboard) (e : Event) : List Message :=
  match e.call with
  | none => []
  | some (c, none) => issued (s.underway c) ((s.next e).underway c)
  | some (c, some answer) => answered (s.underway c) answer

/-- How a step fails in an event, if one does. -/
def failuresIn (s : Switchboard) : Event → List Failure
  | .scene (.answer d answer ..) => (s.scene.underway d).elim [] (·.failures answer)
  | _ => []

/-- What is exchanged in a run. -/
def messages (s : Switchboard) : List Event → List Message
  | [] => []
  | e :: events => s.messagesIn e ++ messages (s.next e) events

/-- How the steps of a run fail that do. -/
def failures (s : Switchboard) : List Event → List Failure
  | [] => []
  | e :: events => s.failuresIn e ++ failures (s.next e) events

variable (s : Switchboard)

/-- Everything that an event leaves in the log of a driven reconciler. -/
theorem log_scene (e : Scene.Event) :
    (s.next (.scene e)).sync.log =
      s.sync.log.recordAll (s.messagesIn (.scene e))
        ((s.failuresIn (.scene e)).map (·.message s.sync.wording)) := by
  cases e with
  | change canRun c => exact log_change s.sync canRun c
  | go d =>
    cases d with
    | hand n =>
      rcases s.scene.next_go_hand n with ⟨same, -⟩ | ⟨plan, idle, -, going⟩
      · simp only [messagesIn, Event.call, next, same, issued_self]
        rfl
      · have after : (s.scene.next (.go (.hand n))).underway (.hand n) = some plan := by
          rw [going, Scene.underway_setHand, if_pos rfl]
        have before : s.scene.underway (.hand n) = none := idle
        simp only [messagesIn, Event.call, next, underway, before, after]
        rw [going]
        exact log_announce s.sync plan
    | loop id => exact log_wakeLoop s.sync id
  | answer d answer canRun heard =>
    cases waiting : s.scene.underway d with
    | none =>
      simp only [messagesIn, failuresIn, Event.call, next, underway, waiting,
        Scene.next_answer_of_none _ waiting]
      rfl
    | some plan =>
      simp only [messagesIn, failuresIn, Event.call, next, underway, waiting]
      rw [Option.map_some, Option.elim_some, ← log_conclude s.sync plan answer canRun heard]
      cases d with
      | hand n =>
        rw [Scene.next_answer_hand _ waiting]
        rfl
      | loop id =>
        obtain ⟨l, -, -, advanced⟩ := s.scene.next_answer_loop waiting answer canRun heard
        rw [advanced]
        exact log_advanceLoop _ id _

theorem errands_put (n : Nat) (sync : Reconciler) (errand : Errand) (m : Nat) :
    (s.put n sync errand).errands m = if m = n then errand else s.errands m := rfl

/-- A command that is sent to the first of some paths is left in the log. -/
theorem log_dispatch {n : Nat} (free : (s.errands n).request? = none) (command : Command)
    (paths : List String) :
    (s.dispatch n command paths).sync.log = s.sync.log.recordAll
      (issued (s.underway (.sender n)) ((s.dispatch n command paths).underway (.sender n))) [] := by
  cases paths with
  | nil =>
    rw [dispatch, issued_self]
    rfl
  | cons path rest =>
    simp only [dispatch, underway, free, errands_put, if_true]
    rfl

/-- An event leaves in the log what is exchanged in it, and how a step fails in it. -/
theorem log_next (e : Event) :
    (s.next e).sync.log = s.sync.log.recordAll (s.messagesIn e)
      ((s.failuresIn e).map (·.message s.sync.wording)) := by
  cases e with
  | scene e => exact s.log_scene e
  | command n lights command =>
    simp only [messagesIn, Event.call, next]
    cases errand : s.errands n with
    | idle => exact s.log_dispatch (by rw [errand]; rfl) command _
    | _ =>
      rw [issued_self]
      rfl
  | resume n =>
    simp only [messagesIn, Event.call, next]
    cases errand : s.errands n with
    | pausing command paths => exact s.log_dispatch (by rw [errand]; rfl) command paths
    | _ =>
      rw [issued_self]
      rfl
  | reply n answer =>
    simp only [messagesIn, Event.call, next, underway]
    cases errand : s.errands n with
    | awaiting command path rest =>
      let request : Request := .put path command.toJson
      have finished (r : Reconciler) : (r.finishDirect request answer).1.log = r.log := by
        unfold finishDirect
        split <;> rfl
      exact (finished _).trans (log_receive s.sync request answer)
    | _ => rfl

/-- Whoever sends direct commands does not concern the requests of others. -/
theorem underway_put {n : Nat} {sync : Reconciler} (silent : sync.silent = s.sync.silent)
    (errand : Errand) {c : Caller} (other : c ≠ .sender n) :
    (s.put n sync errand).underway c = s.underway c := by
  cases c with
  | driver d =>
    cases d with
    | hand m => rfl
    | loop id => exact congrArg (Option.map _) (awaited_of_silent silent id)
  | sender m =>
    have differ : m ≠ n := fun same => other (congrArg _ same)
    simp only [underway, errands_put, differ, if_false]

theorem underway_dispatch {n : Nat} (command : Command) (paths : List String) {c : Caller}
    (other : c ≠ .sender n) : (s.dispatch n command paths).underway c = s.underway c := by
  cases paths with
  | nil => rfl
  | cons path rest =>
    refine s.underway_put ?_ _ other
    rfl

/-- An event concerns the requests of nobody but the caller whom it is about. -/
theorem underway_next_of_other {e : Event} {c : Caller}
    (other : ∀ c' answer, e.call = some (c', answer) → c ≠ c') :
    (s.next e).underway c = s.underway c := by
  cases e with
  | scene e =>
    cases c with
    | sender n => rfl
    | driver d =>
      refine congrArg (Option.map _) ?_
      cases e with
      | change canRun c => exact s.scene.underway_change canRun c d
      | go d' =>
        exact s.scene.underway_go_of_ne fun same => other _ _ rfl (congrArg _ same)
      | answer d' answer canRun heard =>
        exact (s.scene.underway_answer d' d answer canRun heard).trans
          (if_neg fun same => other _ _ rfl (congrArg _ same))
  | command n lights command =>
    simp only [next]
    split
    · exact s.underway_dispatch command _ (other _ _ rfl)
    · rfl
  | resume n =>
    simp only [next]
    split
    · exact s.underway_dispatch _ _ (other _ _ rfl)
    · rfl
  | reply n answer =>
    simp only [next]
    split
    · next command path rest _ =>
      refine s.underway_put ?_ _ (other _ _ rfl)
      unfold finishDirect
      split <;> exact silent_receive s.sync _ answer
    · rfl

theorem setup_next (e : Event) : (s.next e).sync.setup = s.sync.setup := by
  have dispatched (n : Nat) (command : Command) (paths : List String) :
      (s.dispatch n command paths).sync.setup = s.sync.setup := by
    cases paths <;> rfl
  cases e with
  | scene e => exact s.scene.setup_next e
  | command n lights command =>
    simp only [next]
    split
    · exact dispatched ..
    · rfl
  | resume n =>
    simp only [next]
    split
    · exact dispatched ..
    · rfl
  | reply n answer =>
    simp only [next]
    split
    · refine setup_of_silent ?_
      unfold finishDirect
      split <;> exact silent_receive s.sync _ answer
    · rfl

/-- A run leaves in the log what is exchanged in it, and the texts of the failures of its steps. -/
theorem accounts_run {s : Switchboard} {wording : Wording} {room : Nat} {messages : List Message}
    {texts : List String} (worded : s.sync.wording = wording)
    (h : s.sync.log.Accounts room messages texts) (events : List Event) :
    (s.run events).sync.log.Accounts room (messages ++ s.messages events)
      (texts ++ (s.failures events).map (·.message wording)) := by
  induction events generalizing s messages texts with
  | nil =>
    rw [Switchboard.messages, Switchboard.failures, List.map_nil, List.append_nil, List.append_nil]
    exact h
  | cons e rest ih =>
    have here : (s.next e).sync.log.Accounts room (messages ++ s.messagesIn e)
        (texts ++ (s.failuresIn e).map (·.message wording)) := by
      rw [s.log_next e, worded]
      exact h.recordAll _ _
    rw [Switchboard.messages, Switchboard.failures, List.map_append, ← List.append_assoc,
      ← List.append_assoc]
    exact ih ((congrArg Prod.snd (s.setup_next e)).trans worded) here

/-! ## Direct commands as they are written -/

section World

variable {β σ : Type} {hub : Hub β} [Household.Host σ] {w : World hub σ} {n : Nat}
  {command : Command}

/-- The answer to a request that is under way is taken in as in a plain sequence of actions. -/
theorem next_reply_of_sendTo {s : Switchboard} {path : String} {rest : List String}
    (waiting : s.errands n = .awaiting command path rest)
    (sent : s.sync = w.sync.send (.put path command.toJson)) :
    let sent := Environment.sendTo w command path
    let t := s.next (.reply n (hub.take w.memory (.put path command.toJson)).2)
    t.sync = sent.1.sync ∧ t.errands n = .after command rest sent.2 := by
  simp only [next, waiting, sent]
  exact ⟨rfl, if_pos rfl⟩

theorem sendRest_cons_of_ok {path : String} (sent : (Environment.sendTo w command path).2 = .ok ())
    (rest : List String) : Environment.sendRest w command (path :: rest) =
      Environment.sendRest (Environment.sendTo w command path).1 command rest := by
  have made : Environment.sendTo (Environment.pause w lightSpacingMs) command path =
      ((Environment.sendTo w command path).1, .ok ()) := Prod.ext rfl sent
  rw [Environment.sendRest, made]

theorem sendRest_cons_of_error {path : String} {failure : Failure}
    (failed : (Environment.sendTo w command path).2 = .error failure) (rest : List String) :
    Environment.sendRest w command (path :: rest) =
      ((Environment.sendTo w command path).1, .error failure) := by
  have made : Environment.sendTo (Environment.pause w lightSpacingMs) command path =
      ((Environment.sendTo w command path).1, .error failure) := Prod.ext rfl failed
  rw [Environment.sendRest, made]

/-- A command that is sent to one path after the other, up to the first failure, is a run. -/
theorem exists_run_sendRest {s : Switchboard} (same : s.sync = w.sync) (path : String)
    (rest : List String) :
    ∃ events, let t := (s.dispatch n command (path :: rest)).run events
      t.sync = (Environment.sendRest w command (path :: rest)).1.sync ∧ t.errands n = .idle := by
  induction rest generalizing s w path with
  | nil =>
    obtain ⟨sync, errand⟩ := next_reply_of_sendTo (w := w)
      (s := s.dispatch n command [path]) (if_pos rfl) (congrArg (Reconciler.send · _) same)
    refine ⟨[.reply n (hub.take w.memory (.put path command.toJson)).2], sync.trans ?_, errand⟩
    cases result : (Environment.sendTo w command path).2 with
    | ok => rw [sendRest_cons_of_ok result, Environment.sendRest]
    | error failure => rw [sendRest_cons_of_error result]
  | cons path' rest ih =>
    obtain ⟨sync, errand⟩ := next_reply_of_sendTo (w := w)
      (s := s.dispatch n command (path :: path' :: rest)) (if_pos rfl)
      (congrArg (Reconciler.send · _) same)
    let answer := (hub.take w.memory (.put path command.toJson)).2
    let t := (s.dispatch n command (path :: path' :: rest)).next (.reply n answer)
    cases result : (Environment.sendTo w command path).2 with
    | ok =>
      rw [result] at errand
      obtain ⟨events, reached⟩ := ih sync path'
      have resumed : t.next (.resume n) = t.dispatch n command (path' :: rest) := by
        have pausing : t.errands n = .pausing command (path' :: rest) := errand
        simp only [next, pausing]
      refine ⟨.reply n answer :: .resume n :: events, ?_⟩
      rw [sendRest_cons_of_ok result]
      rw [← resumed] at reached
      exact reached
    | error failure =>
      rw [result] at errand
      rw [sendRest_cons_of_error result]
      exact ⟨[.reply n answer], sync, errand⟩

/-- A direct command, written as a plain sequence of actions, is a run of whoever sends it. -/
theorem exists_run_sendDirect {s : Switchboard} (same : s.sync = w.sync)
    (free : s.errands n = .idle) (lights : NameSet) :
    ∃ events, let t := s.run (.command n lights command :: events)
      t.sync = (Environment.sendDirect w lights command).1.sync ∧ t.errands n = .idle := by
  have begun : s.next (.command n lights command) =
      s.dispatch n command (w.sync.state.directPaths lights command) := by
    simp only [next, free, same]
  have whole : Environment.sendDirect w lights command =
      Environment.sendRest w command (w.sync.state.directPaths lights command) := by
    unfold Environment.sendDirect
    split
    · next none =>
      have paths : w.sync.state.directPaths lights command = [] := none
      rw [paths, Environment.sendRest]
    · next path rest some =>
      have paths : w.sync.state.directPaths lights command = path :: rest := some
      rw [paths, Environment.sendRest]
      rfl
  rw [whole]
  simp only [run, Run.after, List.foldl_cons, begun]
  cases w.sync.state.directPaths lights command with
  | nil => exact ⟨[], same, free⟩
  | cons path rest => exact exists_run_sendRest same path rest

end World

/-- The log accounts for every exchange. After every run, its counters are the numbers of requests
that were issued, of responses that came, and of those with another status than 200. It keeps the
last 100 of all messages, or all if there were fewer, and has the text of the failure of the last
step that failed, in which the causes that a library words stand in the words of that library. -/
theorem log_accounts_for_every_exchange (settings : SyncSettings) (wording : Wording)
    (events : List Event) :
    let log := ((new settings wording).run events).sync.log
    let messages := (new settings wording).messages events
    log.requests = messages.countP (·.isRequest) ∧
    log.replies = messages.countP (·.isResponse) ∧
    log.failedReplies = messages.countP (·.isRefusal) ∧
    log.entries = (messages.map Message.entry).drop (messages.length - 100) ∧
    log.entries.length = min 100 (log.requests + log.replies) ∧
    log.lastError = ((new settings wording).failures events).getLast?.map (·.message wording) := by
  intro log messages
  have start : (new settings wording).sync.log.Accounts 100 [] [] := ExchangeLog.accounts_new 100
  have h : log.Accounts 100 messages
      (((new settings wording).failures events).map (·.message wording)) :=
    accounts_run rfl start events
  have all : messages.length = log.requests + log.replies := by
    have either : (fun m : Message => decide ¬ m.isRequest = true) = (·.isResponse) := by
      funext m
      cases m <;> rfl
    rw [h.requests, h.replies, List.length_eq_countP_add_countP (·.isRequest), either]
  refine ⟨h.requests, h.replies, h.failedReplies, h.entries, ?_,
    h.lastError.trans List.getLast?_map⟩
  rw [h.entries, List.length_drop, List.length_map, all]
  omega

/-- A light that does not decode, and then a request that cannot be completed. -/
example :
    let wording : Wording := fun _ _ =>
      "Error(\"invalid type: null, expected struct LightRecord\", line: 0, column: 0)"
    let undecodable : List Event := [.scene (.go (.hand 0)),
      .scene (.answer (.hand 0) (.ok ⟨200, .obj [("1", .null)]⟩) true [])]
    let unreachable : List Event := [.scene (.go (.hand 0)),
      .scene (.answer (.hand 0) (.error (.transport "operation timed out")) true [])]
    let lastError events := ((new .manual wording).run events).sync.log.lastError
    lastError undecodable = some ("failed to load json: " ++
      "Error(\"invalid type: null, expected struct LightRecord\", line: 0, column: 0)") ∧
    lastError (undecodable ++ unreachable) =
      some "bridge transport error: operation timed out" := by
  decide +kernel

end Switchboard
end LightSync.Reconciler
