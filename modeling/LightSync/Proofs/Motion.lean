import LightSync.Household.Motion
import LightSync.Proofs.Accounting
import LightSync.Proofs.AtWork
import LightSync.Proofs.Hub
import LightSync.Proofs.ListingOrder
import Mathlib.Data.List.Induction

/-!
# What motion sends

The service that answers to motion goes through the entities of its call. The turn of an entity is
one request to the group that has exactly its lights, or one for each of them, and every request of
a call has the same body. The first exchange that fails ends the call.

Wherever the service waits, for an answer or between two lights, and before it asks for an entity,
looks up its lights or sends to them, anything else may happen to the household: each of these meets
it as it is by then. If nothing does, then a turn is one request at most, and the service leaves the
household as it was: only the exchanges are recorded.

## Main definitions

- `MotionValues`, `motionBody`: what the requests of a call carry
- `Exchange`, `UpToFailure`: what is exchanged, and how it ends
- `Sends`: the requests of a turn
- `Occurrence`, `Interlude`, `Bustle`: a household to which other things happen while the service
  is at work
- `Bustle.Passes`: what becomes of it from one moment to a later one
- `Bustle.asking`, `Bustle.looking`, `Bustle.sending`: the moments of a turn
- `Bustle.Route`: where the command for an entity is sent
- `Bustle.TakesTurns`, `Bustle.AnswersMotion`: what the service does

## Main results

- `Bustle.sendDirect_passes`: a direct command to any lights
- `Bustle.Route.length_le_one`: where nothing else happens, a turn is at most one request
- `Bustle.motion_in_order`: motion is answered entity by entity
-/

namespace LightSync

open Bridge

namespace Household

open Reconciler (State Environment Change answered lightSpacingMs)

/-! ## The command -/

theorem isValid_motionCommand {σ : Type} (h : Household σ) (params : LightParams) :
    (h.motionCommand params).isValid = true := by
  unfold motionCommand
  cases params.transition <;> rfl

/-- What a call of the service sends: the values of the call, or else the desired ones, moved into
the ranges that the bridge takes. -/
structure MotionValues (desired : Desired) (params : LightParams) (bri ct : Nat) : Prop where
  bri_mem : 3 ≤ bri ∧ bri ≤ 254
  ct_mem : 153 ≤ ct ∧ ct ≤ 454
  bri_eq : bri = min 254 (max 3 (params.brightness.getD desired.brightness).toNat)
  ct_eq : ct = min 454 (max 153 (params.colorTemp.getD desired.temperature).toNat)

/-- The body of the requests of a call: a brightness, a color temperature, and a fade if the call
gives one. -/
def motionBody (bri ct : Nat) (fade : Option Fade) : Json :=
  .obj ([("bri", .ofNat bri), ("ct", .ofNat ct)] ++
    (fade.map fun fade => ("transitiontime", .ofNat fade.deciseconds.toNat)).toList)

theorem canonical_motionCommand {σ : Type} (h : Household σ) (params : LightParams) :
    ∃ bri ct, MotionValues h.desired params bri ct ∧
      (h.motionCommand params).toJson.canonical = motionBody bri ct params.transition := by
  let brightness := Brightness.clamped (params.brightness.getD h.desired.brightness).toNat
  let temperature := ColorTemp.clamped (params.colorTemp.getD h.desired.temperature).toNat
  refine ⟨brightness.value.toNat, temperature.mirek.toNat,
    ⟨Brightness.clamped_mem _, ColorTemp.clamped_mem _, ?_, ?_⟩, ?_⟩
  · exact (Brightness.clamped_toNat _).trans (Decimal.toNat_clampInt _ (by decide))
  · exact (ColorTemp.clamped_toNat _).trans (Decimal.toNat_clampInt _ (by decide))
  · rw [canonical_command]
    unfold motionCommand
    cases params.transition <;> rfl

/-! ## Exchanges -/

/-- A request that was made at some time, in milliseconds, and its answer. -/
structure Exchange where
  time : Nat
  request : Request
  answer : Answer

namespace Exchange

/-- How an exchange ends: it fails if there is no response, or one of another status than 200. -/
def result (x : Exchange) : Except Failure Unit :=
  match x.answer with
  | .error failure => .error failure
  | .ok response =>
    if response.status = 200 then .ok ()
    else .error (.ofStatus x.request.method.name x.request.path response.status response.body)

/-- What is recorded of an exchange. -/
def messages (x : Exchange) : List Bridge.Message :=
  .request x.request :: answered (some x.request) x.answer

end Exchange

/-- The answer to a direct command is recorded and reported, and its result is that of the
exchange. -/
theorem finishDirect_eq (r : Reconciler) (now : Nat) (path : String) (body : Json)
    (answer : Answer) :
    let request : Request := .put path body
    let taken := (r.receive request answer).finishDirect request answer
    taken.2 = (⟨now, request, answer⟩ : Exchange).result ∧ ∃ journal,
      taken.1 = { r with log := r.log.recordAll (answered (some request) answer) [], journal } := by
  intro request taken
  cases answer with
  | error failure => exact ⟨rfl, r.journal, rfl⟩
  | ok response =>
    have accepts : Answer.accepted request (.ok response) =
        if response.status == 200 then .ok response
        else .error (.ofStatus request.method.name path response.status response.body) := rfl
    by_cases fine : response.status = 200
    · rw [if_pos (beq_iff_eq.2 fine)] at accepts
      have done : taken = ((r.receive request (.ok response)).noteWrite path response, .ok ()) := by
        simp only [taken, Reconciler.finishDirect, accepts]
        rfl
      rw [done]
      exact ⟨(if_pos fine).symm, _, rfl⟩
    · rw [if_neg fun ok => fine (beq_iff_eq.1 ok)] at accepts
      have done : taken = (r.receive request (.ok response), .error
          (.ofStatus request.method.name path response.status response.body)) := by
        simp only [taken, Reconciler.finishDirect, accepts]
      rw [done]
      exact ⟨(if_neg fine).symm, _, rfl⟩

/-- No exchange fails but the last one, and that one only if the result is its failure. -/
inductive UpToFailure : List Exchange → Except Failure Unit → Prop where
  | ok {exchanges : List Exchange} (fine : ∀ x ∈ exchanges, x.result = .ok ()) :
    UpToFailure exchanges (.ok ())
  | failed {done : List Exchange} {last : Exchange} {failure : Failure}
    (fine : ∀ x ∈ done, x.result = .ok ()) (fails : last.result = .error failure) :
    UpToFailure (done ++ [last]) (.error failure)

theorem UpToFailure.append {first later : List Exchange} {result : Except Failure Unit}
    (done : UpToFailure first (.ok ())) (rest : UpToFailure later result) :
    UpToFailure (first ++ later) result := by
  cases done with
  | ok before =>
    cases rest with
    | ok fine => exact .ok fun x mem => (List.mem_append.1 mem).elim (before x) (fine x)
    | failed fine fails =>
      rw [← List.append_assoc]
      exact .failed (fun x mem => (List.mem_append.1 mem).elim (before x) (fine x)) fails

/-- The requests of a turn: a PUT of one body to each of some paths, in their order and at least
200 ms apart, up to the first that fails. -/
structure Sends (body : Json) (paths : List String) (exchanges : List Exchange)
    (result : Except Failure Unit) : Prop where
  requests : exchanges.map (·.request) <+: paths.map fun path => ⟨.put, path, body⟩
  all : result = .ok () → exchanges.map (·.request) = paths.map fun path => ⟨.put, path, body⟩
  spaced : exchanges.Pairwise fun a b => a.time + 200 ≤ b.time
  ends : UpToFailure exchanges result

theorem sends_nothing (body : Json) : Sends body [] [] (.ok ()) :=
  ⟨List.prefix_rfl, fun _ => rfl, .nil, .ok (List.forall_mem_nil _)⟩

section

variable {body : Json} {path : String} {paths : List String} {x : Exchange}
  {later : List Exchange} {result : Except Failure Unit}

/-- If the first exchange fails, it is the only one. -/
theorem sends_of_failure (request : x.request = ⟨.put, path, body⟩) {failure : Failure}
    (fails : x.result = .error failure) : Sends body (path :: paths) [x] (.error failure) where
  requests := ⟨paths.map fun path => ⟨.put, path, body⟩, by simp [request]⟩
  all := nofun
  spaced := List.pairwise_singleton ..
  ends := UpToFailure.failed (List.forall_mem_nil _) fails

/-- After one exchange that does not fail come those with the remaining paths. -/
theorem Sends.cons (request : x.request = ⟨.put, path, body⟩) (fine : x.result = .ok ())
    (apart : ∀ y ∈ later, x.time + 200 ≤ y.time) (rest : Sends body paths later result) :
    Sends body (path :: paths) (x :: later) result where
  requests := by
    rw [List.map_cons, List.map_cons, request]
    exact (List.prefix_cons_inj _).2 rest.requests
  all done := by
    rw [List.map_cons, List.map_cons, request, rest.all done]
  spaced := List.pairwise_cons.2 ⟨apart, rest.spaced⟩
  ends := UpToFailure.append (.ok fun y mem => List.mem_singleton.1 mem ▸ fine) rest.ends

end

/-! ## A household in a bustle -/

/-- Something that happens to a household beside the service. -/
inductive Occurrence (σ : Type) where
  | happening (e : Happening σ)
  /-- Somebody asks the reconciler for a change. -/
  | change (canRun : Bool) (c : Change)
  /-- Other exchanges are recorded, other lines are reported, and somebody begins to wait for a
  loop. -/
  | aside (log : ExchangeLog) (journal : Array Line) (latest : Option Nat)

/-- What comes while the service waits, or between two of its operations: other things happen, it
takes its time, and if the service waits for an answer, there is one. -/
structure Interlude (σ : Type) where
  meanwhile : List (Occurrence σ)
  answer : Answer
  ms : Nat

/-- A household, the time, what is to come whenever others may act, how often they had the chance,
and what the service exchanged. -/
structure Bustle (σ : Type) where
  home : DrivenHouse σ
  now : Nat
  coming : Nat → Interlude σ
  waits : Nat
  exchanged : List Exchange

variable {σ : Type}

/-- Some exchanges were recorded and some lines reported, and nothing else happened. -/
def DrivenHouse.Records (h h' : DrivenHouse σ) (exchanges : List Exchange) : Prop :=
  ∃ journal, h' = { h with house := { h.house with sync := { h.house.sync with
    log := h.house.sync.log.recordAll (exchanges.flatMap Exchange.messages) []
    journal } } }

theorem DrivenHouse.Records.state {h h' : DrivenHouse σ} {exchanges : List Exchange}
    (records : h.Records h' exchanges) : h'.state = h.state := by
  obtain ⟨_, rfl⟩ := records
  rfl

theorem DrivenHouse.Records.trans {h h' h'' : DrivenHouse σ} {first later : List Exchange}
    (before : h.Records h' first) (after : h'.Records h'' later) :
    h.Records h'' (first ++ later) := by
  obtain ⟨_, rfl⟩ := before
  obtain ⟨journal, rfl⟩ := after
  refine ⟨journal, ?_⟩
  simp only [ExchangeLog.recordAll, List.flatMap_append, List.foldl_append, List.foldl_nil]

namespace Bustle

variable {b b' b'' : Bustle σ}

abbrev house (b : Bustle σ) : Household σ := b.home.house

/-- Nothing happens beside the service. -/
def Quiet (b : Bustle σ) : Prop := ∀ n, (b.coming n).meanwhile = []

/-- The service goes on from one moment to a later one, and has some exchanges in between. -/
structure Passes (b b' : Bustle σ) (exchanges : List Exchange) : Prop where
  exchanged : b'.exchanged = b.exchanged ++ exchanges
  now : b.now ≤ b'.now
  coming : b'.coming = b.coming
  ordered : b.home.state.GroupsAscend → b'.home.state.GroupsAscend
  quiet : b.Quiet → b.home.Records b'.home exchanges

theorem Passes.refl (b : Bustle σ) : b.Passes b [] :=
  ⟨(List.append_nil _).symm, Nat.le_refl _, rfl, id, fun _ => ⟨b.house.sync.journal, rfl⟩⟩

theorem Passes.trans {first later : List Exchange} (before : b.Passes b' first)
    (after : b'.Passes b'' later) : b.Passes b'' (first ++ later) where
  exchanged := by rw [after.exchanged, before.exchanged, List.append_assoc]
  now := Nat.le_trans before.now after.now
  coming := after.coming.trans before.coming
  ordered := after.ordered ∘ before.ordered
  quiet still := (before.quiet still).trans (after.quiet fun n => before.coming ▸ still n)

/-- If a command was sent to one path, then it is sent to the remaining ones. -/
theorem Passes.sends {between after : Bustle σ} {later : List Exchange} {x : Exchange} {body : Json}
    {path : String} {paths : List String} {result : Except Failure Unit}
    (one : b.Passes between [x]) (request : x.request = ⟨.put, path, body⟩)
    (fine : x.result = .ok ()) (time : x.time = b.now) (rest : between.Passes after later)
    (apart : ∀ y ∈ later, between.now + 200 ≤ y.time) (sends : Sends body paths later result) :
    b.Passes after (x :: later) ∧ (∀ y ∈ x :: later, b.now ≤ y.time) ∧
      Sends body (path :: paths) (x :: later) result := by
  have apart (y : Exchange) (mem : y ∈ later) : x.time + 200 ≤ y.time :=
    time ▸ Nat.le_trans (Nat.add_le_add_right one.now 200) (apart y mem)
  refine ⟨one.trans rest, fun y mem => ?_, sends.cons request fine apart⟩
  rcases List.mem_cons.1 mem with rfl | mem
  · exact Nat.le_of_eq time.symm
  · exact time ▸ Nat.le_trans (Nat.le_add_right ..) (apart y mem)

end Bustle

variable [Host σ]

namespace DrivenHouse

def occur (h : DrivenHouse σ) : Occurrence σ → DrivenHouse σ
  | .happening e => h.proceed e
  | .change canRun c =>
    { h with house := { h.house with sync := h.house.sync.change canRun c } }
  | .aside log journal latest =>
    { h with house := { h.house with sync := { h.house.sync with log, journal, latest } } }

abbrev occurAll (h : DrivenHouse σ) (occurrences : List (Occurrence σ)) : DrivenHouse σ :=
  Run.after occur h occurrences

/-- Whatever happens, the groups that are known stay in bridge order. -/
theorem groupsAscend_occur {h : DrivenHouse σ} (ordered : h.state.GroupsAscend)
    (o : Occurrence σ) : (h.occur o).state.GroupsAscend := by
  cases o with
  | change canRun c =>
    exact (ordered.changes [c]).congr (Reconciler.unclaimed_change h.house.sync canRun c)
  | aside => exact ordered
  | happening e =>
    cases e with
    | operation op =>
      obtain ⟨cs, becomes, -⟩ := h.house.becomes_operate op
      exact (ordered.changes cs).congr becomes.state
    | host host => exact ordered
    | go d => exact ordered.congr (h.scene.unclaimed_next (.go d))
    | answer d answer =>
      refine State.GroupsAscend.congr ?_ (h.unclaimed_proceed_answer d answer)
      cases waiting : h.scene.underway d with
      | none =>
        simp only [Reconciler.Scene.settled, waiting]
        exact ordered
      | some plan =>
        simp only [Reconciler.Scene.settled, waiting]
        exact ordered.take _ plan answer h.house.heard

theorem groupsAscend_occurAll {h : DrivenHouse σ} (ordered : h.state.GroupsAscend)
    (occurrences : List (Occurrence σ)) : (h.occurAll occurrences).state.GroupsAscend := by
  induction occurrences generalizing h with
  | nil => exact ordered
  | cons o rest ih => exact ih (groupsAscend_occur ordered o)

end DrivenHouse

namespace Bustle

variable {b b' : Bustle σ}

def withSync (b : Bustle σ) (sync : Reconciler) : Bustle σ :=
  { b with home := { b.home with house := { b.house with sync } } }

/-- Others may act, for some time or for longer. -/
def wait (b : Bustle σ) (ms : Nat) : Bustle σ :=
  let interlude := b.coming b.waits
  { b with
    home := b.home.occurAll interlude.meanwhile
    now := b.now + ms + interlude.ms
    waits := b.waits + 1 }

instance : Environment (Bustle σ) where
  sync b := b.house.sync
  withSync := withSync
  exchange b request :=
    let answer := (b.coming b.waits).answer
    ({ b.wait 0 with exchanged := b.exchanged ++ [⟨b.now, request, answer⟩] }, answer)
  pause := wait
  interleave b := b.wait 0
  ready b :=
    if b.house.settings.repushOnReady then
      { b with home := { b.home with house := b.house.pushDesired } }
    else b

/-! ## One thing after the other -/

theorem passes_note (b : Bustle σ) (line : Line) :
    b.Passes (Environment.onSync b (·.note line)) [] :=
  ⟨(List.append_nil _).symm, Nat.le_refl _, rfl, id, fun _ => ⟨_, rfl⟩⟩

theorem passes_wait (b : Bustle σ) (ms : Nat) : b.Passes (b.wait ms) [] where
  exchanged := (List.append_nil _).symm
  now := Nat.le_trans (Nat.le_add_right b.now ms) (Nat.le_add_right ..)
  coming := rfl
  ordered ascend := DrivenHouse.groupsAscend_occurAll ascend _
  quiet still := by
    have nothing : (b.coming b.waits).meanwhile = [] := still b.waits
    refine ⟨b.house.sync.journal, ?_⟩
    simp only [wait, nothing]
    rfl

/-- Looking up the lights of an entity reports at most that there are none. -/
theorem passes_lightsOf (b : Bustle σ) (e : Entity) :
    b.Passes (Environment.withSync b (b.house.lightsOf e).1.sync) [] := by
  obtain ⟨journal, same⟩ : ∃ journal,
      (b.house.lightsOf e).1.sync = { b.house.sync with journal } := by
    unfold lightsOf
    split
    · exact ⟨_, rfl⟩
    · cases e.uniqueId with
      | none => exact ⟨_, rfl⟩
      | some uniqueId =>
        simp only [Reconciler.lightsOfId]
        split
        · exact ⟨_, rfl⟩
        · exact ⟨_, rfl⟩
  rw [same]
  exact ⟨(List.append_nil _).symm, Nat.le_refl _, rfl, id, fun _ => ⟨journal, rfl⟩⟩

/-- Sending to one path is one exchange. -/
theorem sendTo_passes (b : Bustle σ) (command : Command) (path : String) :
    let x : Exchange := ⟨b.now, .put path command.toJson, (b.coming b.waits).answer⟩
    let sent := Environment.sendTo b command path
    b.Passes sent.1 [x] ∧ sent.2 = x.result := by
  intro x sent
  let asking := Environment.onSync b (·.send x.request)
  let met := asking.home.occurAll (b.coming b.waits).meanwhile
  obtain ⟨result, journal, taken⟩ :=
    finishDirect_eq met.house.sync b.now path command.toJson x.answer
  have home : sent.1.home = { met with house := { met.house with sync := { met.house.sync with
      log := met.house.sync.log.recordAll (answered (some x.request) x.answer) []
      journal } } } :=
    congrArg (fun sync => { met with house := { met.house with sync } }) taken
  refine ⟨⟨rfl, Nat.le_add_right .., rfl, fun ascend => ?_, fun still => ⟨journal, ?_⟩⟩, result⟩
  · rw [home]
    exact DrivenHouse.groupsAscend_occurAll (h := asking.home) ascend _
  · have nothing : met = asking.home := by
      simp only [met, show (b.coming b.waits).meanwhile = [] from still b.waits]
      rfl
    rw [home, nothing, List.flatMap_singleton]
    rfl

theorem sendRest_passes (b : Bustle σ) (command : Command) (paths : List String) :
    let sent := Environment.sendRest b command paths
    ∃ exchanges, b.Passes sent.1 exchanges ∧ (∀ x ∈ exchanges, b.now + 200 ≤ x.time) ∧
      Sends command.toJson.canonical paths exchanges sent.2 := by
  induction paths generalizing b with
  | nil => exact ⟨[], .refl b, List.forall_mem_nil _, sends_nothing _⟩
  | cons path rest ih =>
    have waited := b.passes_wait lightSpacingMs
    have later : b.now + 200 ≤ (b.wait lightSpacingMs).now := Nat.le_add_right ..
    obtain ⟨one, ends⟩ := (b.wait lightSpacingMs).sendTo_passes command path
    simp only [Environment.sendRest]
    split
    · next between done =>
      rw [show Environment.sendTo (b.wait lightSpacingMs) command path = _ from done] at one ends
      obtain ⟨exchanges, after, apart, sends⟩ := ih between
      obtain ⟨all, since, sent⟩ := one.sends rfl ends.symm rfl after apart sends
      exact ⟨_, waited.trans all, fun x mem => Nat.le_trans later (since x mem), sent⟩
    · next between failure failed =>
      rw [show Environment.sendTo (b.wait lightSpacingMs) command path = _ from failed] at one ends
      refine ⟨_, waited.trans one, fun x mem => ?_, sends_of_failure rfl ends.symm⟩
      rw [List.nil_append, List.mem_singleton] at mem
      exact mem ▸ later

/-- A command goes to the first path at once, and to the others one after the other. -/
theorem sendDirect_passes (b : Bustle σ) (lights : NameSet) (command : Command) :
    let sent := Environment.sendDirect b lights command
    ∃ exchanges, b.Passes sent.1 exchanges ∧ Sends command.toJson.canonical
      (b.home.state.directPaths lights command) exchanges sent.2 := by
  simp only [Environment.sendDirect]
  split
  · next nothing =>
    rw [show b.home.state.directPaths lights command = [] from nothing]
    exact ⟨[], .refl b, sends_nothing _⟩
  · next path rest paths =>
    rw [show b.home.state.directPaths lights command = path :: rest from paths]
    obtain ⟨one, ends⟩ := b.sendTo_passes command path
    split
    · next between done =>
      rw [done] at one ends
      obtain ⟨exchanges, after, apart, sends⟩ := between.sendRest_passes command rest
      obtain ⟨all, -, sent⟩ := one.sends rfl ends.symm rfl after apart sends
      exact ⟨_, all, sent⟩
    · next between failure failed =>
      rw [failed] at one ends
      exact ⟨_, one, sends_of_failure rfl ends.symm⟩

/-! ## The turn of an entity -/

/-- The household when the host is asked for the entity whose turn it is. -/
abbrev asking (b : Bustle σ) : Bustle σ := Environment.interleave b

/-- The household when the lights of an entity are looked up: the host was asked for the entity. -/
abbrev looking (b : Bustle σ) : Bustle σ := Environment.interleave b.asking

/-- The household when a command is sent to the lights of an entity: they were looked up. -/
abbrev sending (b : Bustle σ) (e : Entity) : Bustle σ :=
  Environment.interleave (Environment.withSync b.looking (b.looking.house.lightsOf e).1.sync)

theorem passes_asking (b : Bustle σ) : b.Passes b.asking [] := b.passes_wait 0

theorem passes_looking (b : Bustle σ) : b.Passes b.looking [] :=
  b.passes_asking.trans (passes_wait _ 0)

theorem passes_sending (b : Bustle σ) (e : Entity) : b.Passes (b.sending e) [] :=
  (b.passes_looking.trans (b.looking.passes_lightsOf e)).trans (passes_wait _ 0)

/-- The paths to which the command for an entity is sent: none if the entity is not known, or has no
known lights; else the action of the first group, in bridge order, that is wanted to have exactly
its lights, or if there is none, the state of each of its lights, in ascending order. The entity,
its lights and the groups are those of three moments, and what is wanted of the groups may no longer
be what it was when the lights were looked up. -/
inductive Route (b : Bustle σ) (entityId : String) : List String → Prop where
  | unknown (nobody : Host.entity? b.asking.house.host entityId = none) : Route b entityId []
  | unresolved {e : Entity} (known : Host.entity? b.asking.house.host entityId = some e)
    (nowhere : b.looking.home.state.lightsOf? e = none) : Route b entityId []
  | empty {e : Entity} (known : Host.entity? b.asking.house.host entityId = some e)
    (none : b.looking.home.state.lightsOf? e = some ∅) : Route b entityId []
  | group {e : Entity} {lights : NameSet} {g : Group}
    (known : Host.entity? b.asking.house.host entityId = some e)
    (resolved : b.looking.home.state.lightsOf? e = some lights) (nonempty : lights ≠ ∅)
    (first : IsSmallest (·.number) (b.sending e).home.state.allGroups
      (·.lights.value = some lights) (some g)) :
    Route b entityId ["/groups/" ++ g.number ++ "/action"]
  | lights {e : Entity} {lights : NameSet} {names : List String}
    (known : Host.entity? b.asking.house.host entityId = some e)
    (resolved : b.looking.home.state.lightsOf? e = some lights) (nonempty : lights ≠ ∅)
    (ungrouped : ∀ g ∈ (b.sending e).home.state.allGroups, g.lights.value ≠ some lights)
    (ascending : names.Pairwise (· < ·)) (members : ∀ name, name ∈ names ↔ name ∈ lights) :
    Route b entityId (names.map fun name => "/lights/" ++ name ++ "/state")

/-- A command that changes something goes where the lights of the entity are. -/
theorem route_directPaths {entityId : String} {e : Entity} {lights : NameSet} {command : Command}
    (ordered : b.home.state.GroupsAscend) (valid : command.isValid = true)
    (known : Host.entity? b.asking.house.host entityId = some e)
    (resolved : b.looking.home.state.lightsOf? e = some lights) :
    b.Route entityId ((b.sending e).home.state.directPaths lights command) := by
  by_cases nothing : lights = ∅
  · subst nothing
    exact .empty known resolved
  · have goes : ¬ (lights.isEmpty || !command.isValid) = true := by
      rw [valid, Bool.not_true, Bool.or_false, NameSet.isEmpty_iff]
      exact nothing
    rw [Reconciler.State.directPaths, if_neg goes]
    have smallest := isSmallest_find? ((b.passes_sending e).ordered ordered)
      (·.lights.value = some lights)
    cases found : (b.sending e).home.state.allGroups.find? (·.lights.value = some lights) with
    | some g =>
      rw [found] at smallest
      exact .group known resolved nothing smallest
    | none =>
      rw [found] at smallest
      exact .lights known resolved nothing smallest lights.ascending fun _ => Iff.rfl

/-- The lights of an entity are one light or those of a known group. So where nothing changes before
the command is sent, at most one request is enough. -/
theorem Route.length_le_one {entityId : String} {paths : List String} (still : b.Quiet)
    (route : b.Route entityId paths) : paths.length ≤ 1 := by
  cases route with
  | unknown | unresolved | empty => exact Nat.zero_le 1
  | group => exact Nat.le_refl 1
  | @lights e lights names known resolved nonempty ungrouped ascending members =>
    rw [(b.passes_looking.quiet still).state] at resolved
    rw [((b.passes_sending e).quiet still).state] at ungrouped
    unfold Reconciler.State.lightsOf? at resolved
    split at resolved
    · obtain ⟨g, named, is⟩ := Option.map_eq_some_iff.1 resolved
      have wanted : g.lights.value = some lights := by
        cases value : g.lights.value with
        | none =>
          rw [Cell.members, value] at is
          exact absurd is.symm nonempty
        | some wanted =>
          rw [Cell.members, value] at is
          exact congrArg some is
      exact absurd wanted (ungrouped g (List.mem_of_find?_eq_some named))
    · obtain ⟨number, -, rfl⟩ := Option.map_eq_some_iff.1 resolved
      have one : (⟨names, ascending⟩ : NameSet) = .singleton number := NameSet.ext members
      have names : names = [number] := congrArg NameSet.toList one
      rw [names]
      exact Nat.le_refl 1

/-- The turn of an entity is a direct command to its lights. -/
theorem turn_of_lights {entityId : String} {e : Entity} {lights : NameSet}
    (known : Host.entity? b.asking.house.host entityId = some e)
    (resolved : (b.looking.house.lightsOf e).2 = some lights) (command : Command) :
    sendToEntities house command b [entityId] =
      Environment.sendDirect (b.sending e) lights command := by
  rcases sent : Environment.sendDirect (b.sending e) lights command with ⟨after, failure | ⟨⟩⟩
  · simp only [sendToEntities, known, resolved, sent]
  · simp only [sendToEntities, known, resolved, sent]

/-- In its turn an entity is sent the command where its lights are. -/
theorem turn_passes (b : Bustle σ) {command : Command} (valid : command.isValid = true)
    (entityId : String) :
    let turn := sendToEntities house command b [entityId]
    ∃ exchanges, b.Passes turn.1 exchanges ∧ (b.home.state.GroupsAscend → ∃ paths,
      b.Route entityId paths ∧ Sends command.toJson.canonical paths exchanges turn.2) := by
  intro turn
  cases known : Host.entity? b.asking.house.host entityId with
  | none =>
    have noted : turn =
        (Environment.onSync b.asking (·.note (.warn s!"Unknown entity {entityId}")), .ok ()) := by
      simp only [turn, sendToEntities, known]
    rw [noted]
    exact ⟨[], b.passes_asking.trans (b.asking.passes_note _),
      fun _ => ⟨[], .unknown known, sends_nothing _⟩⟩
  | some e =>
    obtain ⟨found, -⟩ := b.looking.house.lightsOf_eq e
    cases resolved : (b.looking.house.lightsOf e).2 with
    | none =>
      have skipped : turn = (b.looking.withSync (b.looking.house.lightsOf e).1.sync, .ok ()) := by
        simp only [turn, sendToEntities, known, resolved]
        rfl
      rw [skipped]
      exact ⟨[], b.passes_looking.trans (b.looking.passes_lightsOf e),
        fun _ => ⟨[], .unresolved known (found ▸ resolved), sends_nothing _⟩⟩
    | some lights =>
      have direct : turn = _ := turn_of_lights known resolved command
      obtain ⟨exchanges, sent, sends⟩ := (b.sending e).sendDirect_passes lights command
      rw [direct]
      exact ⟨exchanges, (b.passes_sending e).trans sent,
        fun ascend => ⟨_, route_directPaths ascend valid known (found ▸ resolved), sends⟩⟩

end Bustle

/-! ## The turns of all entities -/

section

variable {ε : Type} [Environment ε]

/-- After the turns of some entities come those of the others, unless an exchange failed. -/
theorem sendToEntities_append (household : ε → Household σ) (command : Command) (e : ε)
    (ids more : List String) :
    sendToEntities household command e (ids ++ more) =
      match sendToEntities household command e ids with
      | (e, .ok ()) => sendToEntities household command e more
      | (e, .error failure) => (e, .error failure) := by
  induction ids generalizing e with
  | nil => rfl
  | cons entityId rest ih =>
    simp only [List.cons_append, sendToEntities]
    generalize Environment.interleave e = asking
    cases Host.entity? (household asking).host entityId with
    | none => exact ih _
    | some entity =>
      simp only
      generalize Environment.interleave asking = looking
      cases ((household looking).lightsOf entity).2 with
      | none => exact ih _
      | some lights =>
        simp only
        rcases Environment.sendDirect (Environment.interleave (Environment.withSync looking
          ((household looking).lightsOf entity).1.sync)) lights command with
          ⟨after, failure | ⟨⟩⟩
        · rfl
        · exact ih after

end

namespace Bustle

/-- What the turns of some entities leave. -/
def afterTurns (b : Bustle σ) (params : LightParams) (ids : List String) : Bustle σ :=
  (motionOn house b ⟨ids, params⟩).1

/-- The turns of a call with some entities. Each entity has its turn when those before it had
theirs, and all have one if no exchange fails; if one does, it is in the last turn. -/
structure TakesTurns (b : Bustle σ) (params : LightParams) (body : Json) (ids : List String)
    (turns : List (List Exchange)) (result : Except Failure Unit) : Prop where
  all : result = .ok () → turns.length = ids.length
  each : ∀ k turn, turns[k]? = some turn → ∃ entityId paths, ids[k]? = some entityId ∧
    (b.afterTurns params (ids.take k)).Route entityId paths ∧
    Sends body paths turn (if k + 1 = turns.length then result else .ok ())

section

variable {b : Bustle σ} {params : LightParams} {body : Json} {ids paths : List String}
  {entityId : String} {turns : List (List Exchange)} {exchanges : List Exchange}
  {result : Except Failure Unit} {failure : Failure}

/-- An entity more makes no difference to the turns of those before it. -/
theorem TakesTurns.earlier (taken : b.TakesTurns params body ids turns result) (entityId : String)
    {k : Nat} {turn : List Exchange} (here : turns[k]? = some turn) :
    ∃ x paths, (ids ++ [entityId])[k]? = some x ∧
      (b.afterTurns params ((ids ++ [entityId]).take k)).Route x paths ∧
      Sends body paths turn (if k + 1 = turns.length then result else .ok ()) := by
  obtain ⟨x, paths, there, route, sends⟩ := taken.each k turn here
  obtain ⟨inside, -⟩ := List.getElem?_eq_some_iff.1 there
  refine ⟨x, paths, (List.getElem?_append_left inside).trans there, ?_, sends⟩
  rw [List.take_append_of_le_length (Nat.le_of_lt inside)]
  exact route

/-- After a failure nobody has a turn. -/
theorem TakesTurns.stop (taken : b.TakesTurns params body ids turns (.error failure)) :
    b.TakesTurns params body (ids ++ [entityId]) turns (.error failure) :=
  ⟨nofun, fun _ _ here => taken.earlier entityId here⟩

/-- If nothing failed, it is the turn of one more entity. -/
theorem TakesTurns.turn (taken : b.TakesTurns params body ids turns (.ok ()))
    (route : (b.afterTurns params ids).Route entityId paths)
    (sends : Sends body paths exchanges result) :
    b.TakesTurns params body (ids ++ [entityId]) (turns ++ [exchanges]) result where
  all _ := by simp [taken.all rfl]
  each k turn here := by
    have length := taken.all rfl
    by_cases last : k = turns.length
    · subst last
      rw [List.getElem?_concat_length] at here
      cases here
      refine ⟨entityId, paths, ?_, ?_, ?_⟩
      · rw [length, List.getElem?_concat_length]
      · rw [length, List.take_left]
        exact route
      · rw [if_pos (by simp)]
        exact sends
    · have inside : k < turns.length := by
        obtain ⟨there, -⟩ := List.getElem?_eq_some_iff.1 here
        rw [List.length_append, List.length_singleton] at there
        omega
      rw [List.getElem?_append_left inside] at here
      obtain ⟨x, paths, there, before, earlier⟩ := taken.earlier entityId here
      refine ⟨x, paths, there, before, ?_⟩
      rw [ite_self] at earlier
      rw [if_neg (by simp; omega)]
      exact earlier

end

/-- What the service does that answers to motion, and with which result. -/
structure AnswersMotion (b : Bustle σ) (call : ServiceCall LightParams) (after : Bustle σ)
    (result : Except Failure Unit) : Prop where
  /-- What is exchanged are the turns of the entities, with one body for all. -/
  turns : ∃ bri ct, MotionValues b.house.desired call.params bri ct ∧ ∃ turns,
    after.exchanged = turns.flatten ∧
    b.TakesTurns call.params (motionBody bri ct call.params.transition) call.entityIds turns result
  ends : UpToFailure after.exchanged result
  /-- Where nothing else happens, exchanges are recorded and lines reported, and that is all. -/
  frame : b.Quiet → b.home.Records after.home after.exchanged

/-- The service goes through the entities one after the other. -/
theorem motionOn_passes (b : Bustle σ) (params : LightParams) (ids : List String)
    (ordered : b.home.state.GroupsAscend) :
    let done := motionOn house b ⟨ids, params⟩
    ∃ turns, b.Passes done.1 turns.flatten ∧ UpToFailure turns.flatten done.2 ∧
      b.TakesTurns params (b.house.motionCommand params).toJson.canonical ids turns done.2 := by
  -- What the last entity meets depends on what happened in the turns of those before it.
  induction ids using List.reverseRecOn with
  | nil => exact ⟨[], .refl b, .ok (List.forall_mem_nil _), fun _ => rfl, nofun⟩
  | append_singleton ids entityId ih =>
    obtain ⟨turns, passes, ends, taken⟩ := ih
    have step : motionOn house b ⟨ids ++ [entityId], params⟩ = _ :=
      sendToEntities_append house (b.house.motionCommand params) b ids [entityId]
    rcases before : motionOn house b ⟨ids, params⟩ with ⟨between, failure | ⟨⟩⟩
    · rw [before] at passes ends taken
      rw [show sendToEntities house (b.house.motionCommand params) b ids = _ from before] at step
      rw [step]
      exact ⟨turns, passes, ends, taken.stop⟩
    · rw [before] at passes ends taken
      rw [show sendToEntities house (b.house.motionCommand params) b ids = _ from before] at step
      rw [step]
      obtain ⟨exchanges, turn, routed⟩ :=
        between.turn_passes (b.house.isValid_motionCommand params) entityId
      obtain ⟨paths, route, sends⟩ := routed (passes.ordered ordered)
      have met : b.afterTurns params ids = between := congrArg (·.1) before
      rw [← met] at route
      refine ⟨turns ++ [exchanges], ?_, ?_, taken.turn route sends⟩
      · rw [List.flatten_append, List.flatten_singleton]
        exact passes.trans turn
      · rw [List.flatten_append, List.flatten_singleton]
        exact ends.append sends.ends

/-- Motion is answered entity by entity. Whatever happened to the household before, and whatever
happens while the service is at work, the entities have their turns in the order of the call: each
is sent the one body of the call where its lights are by then, or is passed over. The first exchange
that fails is the last one, and the service returns its failure; otherwise it returns none. Where
nothing else happens, the service changes nothing but the log and the journal. -/
theorem motion_in_order (settings : HouseSettings) (sync : SyncSettings) (wording : Wording)
    (host : σ) (before : List (Occurrence σ)) (now : Nat) (coming : Nat → Interlude σ)
    (call : ServiceCall LightParams) :
    let b : Bustle σ :=
      ⟨(DrivenHouse.new settings sync wording host).occurAll before, now, coming, 0, []⟩
    b.AnswersMotion call (motionOn house b call).1 (motionOn house b call).2 := by
  intro b
  have ordered : b.home.state.GroupsAscend :=
    DrivenHouse.groupsAscend_occurAll (h := .new settings sync wording host) .nil before
  obtain ⟨turns, passes, ends, taken⟩ := b.motionOn_passes call.params call.entityIds ordered
  obtain ⟨bri, ct, values, body⟩ := b.house.canonical_motionCommand call.params
  have exchanged : (motionOn house b call).1.exchanged = turns.flatten := passes.exchanged
  rw [body] at taken
  refine ⟨⟨bri, ct, values, turns, exchanged, taken⟩, ?_, fun still => ?_⟩
  · rw [exchanged]
    exact ends
  · rw [exchanged]
    exact passes.quiet still

/-- An unknown entity is passed over. Group A is wanted to have both lights when those of its entity
are looked up, but only light 1 when the command is to be sent: so each of the two is sent it. The
other entity of light 1 is then reached as the group, and light 2 cannot be reached. -/
theorem motion_in_order_of_two_lights :
    let settings := { SyncSettings.manual with brightnessGroup := "A" }
    let host : Simulation.ScriptedHost := .ofEntities
      [.bridgeGroup "light.hall" "A", .light "light.a" "one" "a", .light "light.b" "two" "b"]
    let listed : List (Occurrence Simulation.ScriptedHost) := [
      .happening (.go (.hand 0)), .happening (.answer (.hand 0) (.ok ⟨200, .obj [
        ("1", .obj [("name", .str "a"), ("uniqueid", .str "one")]),
        ("2", .obj [("name", .str "b"), ("uniqueid", .str "two")])]⟩)),
      .happening (.go (.hand 0)), .happening (.answer (.hand 0) (.ok ⟨200, .obj [
        ("7", .obj [("name", .str "A"), ("lights", .strings [])])]⟩)),
      .change false (.setLights .brightness (.ofList ["1", "2"]))]
    let taken := [.change false (.setLights .brightness (.ofList ["1"]))]
    let coming n : Interlude Simulation.ScriptedHost := ⟨if n = 3 then taken else [],
      if n < 14 then .ok ⟨200, .arr []⟩ else .error (.transport "timed out"), 5⟩
    let call : ServiceCall LightParams :=
      ⟨["light.x", "light.hall", "light.a", "light.b", "light.hall"], .none⟩
    let b : Bustle Simulation.ScriptedHost :=
      ⟨(DrivenHouse.new .default settings .brief host).occurAll listed, 0, coming, 0, []⟩
    let done := motionOn house b call
    b.AnswersMotion call done.1 done.2 ∧ done.2.isOk = false ∧
      done.1.exchanged.map (fun x => (x.time, x.request.path)) =
        [(20, "/lights/1/state"), (230, "/lights/2/state"), (250, "/groups/7/action"),
          (270, "/lights/2/state")] :=
  ⟨motion_in_order _ _ _ _ _ _ _ _, by decide +kernel⟩

end Bustle
end Household
end LightSync
