import LightSync.Proofs.FailedStep
import LightSync.Proofs.Moves
import LightSync.Proofs.Planning

/-!
# Requests that come while a step is under way

An all-off or a reload that is asked for stays pending until an update serves it. The update does
not tell when the request was made: a step whose answer serves a request serves everything of its
kind that was asked for while it was under way. All other steps leave the request pending.

## Main definitions

- `Requests`: what is pending, with `Requests.ask` and `Requests.serve`
- `Change.lastAllOff`: the last all-off that changes ask for
-/

namespace LightSync.Reconciler

open Bridge

namespace Change

/-- The fade of the all-off that a change asks for. -/
def allOff? : Change → Option (Option Fade)
  | .requestAllOff fade => some fade
  | _ => none

/-- The fade of the last all-off that some changes ask for. -/
def lastAllOff : List Change → Option (Option Fade)
  | [] => none
  | c :: rest => (lastAllOff rest).or c.allOff?

theorem lastAllOff_append (first second : List Change) :
    lastAllOff (first ++ second) = (lastAllOff second).or (lastAllOff first) := by
  induction first with
  | nil => rw [List.nil_append, lastAllOff, Option.or_none]
  | cons c rest ih => rw [List.cons_append, lastAllOff, lastAllOff, ih, Option.or_assoc]

end Change

/-- The requests that are pending. -/
structure Requests where
  allOff : Option (Option Fade)
  reloadLights : Bool
  reloadGroups : Bool

namespace Requests

def ask (r : Requests) : Change → Requests
  | .requestAllOff fade => { r with allOff := some fade }
  | .requestReload => { r with reloadLights := true, reloadGroups := true }
  | _ => r

/-- An update serves the requests of its kind, whenever they were made. -/
def serve (r : Requests) : Update → Requests
  | .allOff => { r with allOff := none }
  | .lights _ => { r with reloadLights := false }
  | .groups _ => { r with reloadGroups := false }
  | _ => r

def askAll (r : Requests) (cs : List Change) : Requests := cs.foldl ask r

theorem allOff_ask (r : Requests) (c : Change) : (r.ask c).allOff = c.allOff?.or r.allOff := by
  cases c <;> rfl

theorem allOff_askAll (r : Requests) (cs : List Change) :
    (r.askAll cs).allOff = (Change.lastAllOff cs).or r.allOff := by
  induction cs generalizing r with
  | nil => rfl
  | cons c rest ih =>
    calc (r.askAll (c :: rest)).allOff = ((r.ask c).askAll rest).allOff := rfl
      _ = (Change.lastAllOff rest).or (r.ask c).allOff := ih (r.ask c)
      _ = (Change.lastAllOff rest).or (c.allOff?.or r.allOff) := by rw [allOff_ask]
      _ = (Change.lastAllOff (c :: rest)).or r.allOff := by rw [Change.lastAllOff, Option.or_assoc]

theorem allOff_serve {r : Requests} {u : Update} (other : u ≠ .allOff) :
    (r.serve u).allOff = r.allOff := by
  cases u with
  | allOff => exact absurd rfl other
  | _ => rfl

theorem reloadLights_serve {r : Requests} {u : Update} (other : ∀ lights, u ≠ .lights lights) :
    (r.serve u).reloadLights = r.reloadLights := by
  cases u with
  | lights lights => exact absurd rfl (other lights)
  | _ => rfl

theorem reloadGroups_serve {r : Requests} {u : Update} (other : ∀ groups, u ≠ .groups groups) :
    (r.serve u).reloadGroups = r.reloadGroups := by
  cases u with
  | groups groups => exact absurd rfl (other groups)
  | _ => rfl

/-- Where there may be no update, nothing else changes a request. -/
theorem elim_serve {β : Type} {view : Requests → β} {r : Requests} {read : Option Update}
    (kept : ∀ u, read = some u → view (r.serve u) = view r) :
    view (read.elim r r.serve) = view r := by
  cases read with
  | none => rfl
  | some u => exact kept u rfl

/-- A reload of a listing is pending if it was, or if it is asked for. -/
theorem reload_askAll {reload : Requests → Bool}
    (asks : ∀ r c, reload (ask r c) = true ↔ c = .requestReload ∨ reload r = true)
    (r : Requests) (cs : List Change) :
    reload (r.askAll cs) = true ↔ .requestReload ∈ cs ∨ reload r = true := by
  induction cs generalizing r with
  | nil => simp [askAll]
  | cons c rest ih =>
    have step : reload (r.askAll (c :: rest)) = true ↔
        .requestReload ∈ rest ∨ reload (r.ask c) = true := ih (r.ask c)
    rw [step, asks, List.mem_cons, or_left_comm, ← or_assoc, @eq_comm _ c]

theorem reloadLights_askAll (r : Requests) (cs : List Change) :
    (r.askAll cs).reloadLights = true ↔ .requestReload ∈ cs ∨ r.reloadLights = true := by
  refine reload_askAll (fun r c => ?_) r cs
  cases c <;> simp [ask]

theorem reloadGroups_askAll (r : Requests) (cs : List Change) :
    (r.askAll cs).reloadGroups = true ↔ .requestReload ∈ cs ∨ r.reloadGroups = true := by
  refine reload_askAll (fun r c => ?_) r cs
  cases c <;> simp [ask]

end Requests

namespace State

variable {s t : State} {settings : SyncSettings}

def requests (s : State) : Requests := ⟨s.allOff, s.reloadLights, s.reloadGroups⟩

theorem requests_congr (same : s.unclaimed = t.unclaimed) : s.requests = t.requests :=
  (congrArg requests same :)

@[simp] theorem requests_modifyGroup (s : State) (kind : GroupKind) (f : Group → Group) :
    (s.modifyGroup kind f).requests = s.requests := by
  simp [requests]

theorem requests_change (s : State) (c : Change) :
    (s.change c).1.requests = s.requests.ask c := by
  rcases s.change_cases c with ⟨kind, f, edits, made⟩ | ⟨same, nothing⟩ | ⟨-, -, request⟩
  · rw [made, requests_modifyGroup]
    cases c <;> cases edits <;> rfl
  · rw [same]
    cases c with
    | requestAllOff => exact absurd rfl nothing
    | requestReload => exact absurd rfl nothing
    | _ => rfl
  · rcases request with ⟨fade, rfl⟩ | rfl | rfl <;> rfl

theorem requests_changes (s : State) (cs : List Change) :
    (s.changes cs).requests = s.requests.askAll cs := by
  induction cs generalizing s with
  | nil => rfl
  | cons c rest ih => rw [changes_cons, ih, requests_change]; rfl

theorem requests_update (s : State) (settings : SyncSettings) (u : Update) :
    (s.update settings u).requests = s.requests.serve u := by
  cases u with
  | allOff =>
    have both : (s.emptyGroup .brightness |>.emptyGroup .temperature).requests = s.requests :=
      (requests_modifyGroup ..).trans (requests_modifyGroup ..)
    exact congrArg (fun r : Requests => { r with allOff := none }) both
  | lights => rfl
  | groups => rfl
  | membership => exact requests_modifyGroup ..
  | values => exact (requests_modifyGroup ..).trans (requests_modifyGroup ..)

/-- A reload of the lights that is pending comes before everything but an all-off. -/
theorem plan_of_reloadLights (pending : s.reloadLights = true) :
    ∃ plan, s.plan settings = some plan ∧ (plan.step = .processCommands ∨ plan = .loadLights) := by
  rcases s.plan_cases settings with
    ⟨fade, -, planned⟩ | ⟨-, -, planned⟩ | ⟨-, -, no, -⟩ | ⟨listed, -⟩
  · exact ⟨_, planned, .inl rfl⟩
  · exact ⟨_, planned, .inr rfl⟩
  · exact nomatch pending.symm.trans no
  · exact nomatch pending.symm.trans listed.reloadLights

/-- A reload of the groups that is pending comes before all memberships and values. -/
theorem plan_of_reloadGroups (pending : s.reloadGroups = true) :
    ∃ plan, s.plan settings = some plan ∧
      (plan.step = .processCommands ∨ plan = .loadLights ∨ plan = .loadGroups) := by
  rcases s.plan_cases settings with
    ⟨fade, -, planned⟩ | ⟨-, -, planned⟩ | ⟨-, -, -, -, planned⟩ | ⟨listed, -⟩
  · exact ⟨_, planned, .inl rfl⟩
  · exact ⟨_, planned, .inr (.inl rfl)⟩
  · exact ⟨_, planned, .inr (.inr rfl)⟩
  · exact nomatch pending.symm.trans listed.reloadGroups

end State

namespace Scene

variable {s : Scene} {d : Driver} {plan : Plan} {answer : Answer} {canRun : Bool}
  {heard : List Change}

/-- Only where the groups were listed is there somebody to hear of it. -/
theorem followUps_of_not_loads {e : Event}
    (quiet : ∀ u, s.readUpdate e = some u → u.loads = false) : s.followUps e = [] := by
  unfold followUps
  split
  · rename_i u read
    simp [quiet u read]
  · rfl

/-! ## Requests in a run -/

theorem requests_change (s : Scene) (canRun : Bool) (c : Change) :
    (s.next (.change canRun c)).state.requests = s.state.requests.ask c :=
  (State.requests_congr (s.unclaimed_next (.change canRun c))).trans (s.state.requests_change c)

theorem requests_meanwhile (s : Scene) (cs : List (Bool × Change)) :
    (s.meanwhile cs).state.requests = s.state.requests.askAll (cs.map (·.2)) := by
  induction cs generalizing s with
  | nil => rfl
  | cons c rest ih =>
    obtain ⟨canRun, c⟩ := c
    rw [meanwhile_cons, ih, requests_change]
    rfl

/-- An answer serves what its update serves; whoever hears of loaded groups asks after that. -/
theorem requests_answer (s : Scene) (d : Driver) (answer : Answer) (canRun : Bool)
    (heard : List Change) :
    let e := Event.answer d answer canRun heard
    (s.next e).state.requests =
      ((s.readUpdate e).elim s.state.requests s.state.requests.serve).askAll (s.followUps e) := by
  intro e
  rw [State.requests_congr (s.unclaimed_next_moves e)]
  simp only [moves, e, List.nil_append, State.moveAll_append, State.moveAll_changes,
    State.requests_changes]
  cases s.readUpdate (.answer d answer canRun heard) with
  | none => rfl
  | some u => exact congrArg (Requests.askAll · _) (State.requests_update ..)

/-! ## Requests while a step is under way -/

/-- What becomes of the requests that were `asked` for while a step was under way, and of those
that were made by whoever was `told` of loaded groups: they are pending, but for those of the kind
that the answer serves, and what is pending is planned before memberships and values. -/
structure KeepsRequests (plan : Plan) (answer : Answer) (asked told : List Change) (after : State)
    (settings : SyncSettings) : Prop where
  allOff : ¬ plan.Reads answer .allOff → ∀ fade, Change.lastAllOff (asked ++ told) = some fade →
    after.allOff = some fade
  allOffServed : plan.Reads answer .allOff → after.allOff = none
  lights : (∀ lights, ¬ plan.Reads answer (.lights lights)) → .requestReload ∈ asked →
    after.reloadLights = true
  lightsServed : ∀ lights, plan.Reads answer (.lights lights) → after.reloadLights = false
  groups : (∀ groups, ¬ plan.Reads answer (.groups groups)) → .requestReload ∈ asked →
    after.reloadGroups = true
  groupsServed : ∀ groups, plan.Reads answer (.groups groups) →
    (after.reloadGroups = true ↔ .requestReload ∈ told)
  lightsNext : after.reloadLights = true → ∃ plan, after.plan settings = some plan ∧
    (plan.step = .processCommands ∨ plan = .loadLights)
  groupsNext : after.reloadGroups = true → ∃ plan, after.plan settings = some plan ∧
    (plan.step = .processCommands ∨ plan = .loadLights ∨ plan = .loadGroups)

/-- A request is kept by every step that does not serve its kind. In every state, whatever step is
under way, whatever changes are made meanwhile, and whatever its answer is: an all-off stays pending
unless that step told every light to turn off, a reload of the lights unless it listed the lights,
and a reload of the groups unless it listed the groups. -/
theorem request_kept_unless_served (s : Scene) (d : Driver) (plan : Plan)
    (waiting : s.underway d = some plan) (cs : List (Bool × Change)) (answer : Answer)
    (canRun : Bool) (heard : List Change) :
    let during := s.meanwhile cs
    let e := Event.answer d answer canRun heard
    KeepsRequests plan answer (cs.map (·.2)) (during.followUps e) (during.next e).state
      s.sync.settings := by
  intro during e
  let asked := cs.map (·.2)
  let told := during.followUps e
  let pending := s.state.requests.askAll asked
  have reads (u : Update) : during.readUpdate e = some u ↔ plan.Reads answer u :=
    readUpdate_eq_some_iff ((s.underway_meanwhile cs d).trans waiting)
  have after : (during.next e).state.requests =
      ((during.readUpdate e).elim pending pending.serve).askAll told := by
    rw [requests_answer, requests_meanwhile]
  have served {u : Update} (h : plan.Reads answer u) :
      (during.next e).state.requests = (pending.serve u).askAll told := by
    rw [after, (reads u).2 h]
    rfl
  have quiet {u : Update} (h : plan.Reads answer u) (silent : u.loads = false) : told = [] := by
    apply followUps_of_not_loads
    intro u' read
    rw [(reads u).2 h] at read
    cases read
    exact silent
  constructor
  · intro other fade last
    have kept : ((during.readUpdate e).elim pending pending.serve).allOff = pending.allOff := by
      refine Requests.elim_serve fun u read => Requests.allOff_serve ?_
      rintro rfl
      exact other ((reads _).1 read)
    have all := congrArg Requests.allOff after
    rw [Requests.allOff_askAll, kept, Requests.allOff_askAll, ← Option.or_assoc,
      ← Change.lastAllOff_append, last] at all
    exact all
  · intro h
    have all := congrArg Requests.allOff (served h)
    rw [quiet h rfl] at all
    exact all
  · intro other mem
    have kept : ((during.readUpdate e).elim pending pending.serve).reloadLights =
        pending.reloadLights := by
      refine Requests.elim_serve fun u read => Requests.reloadLights_serve ?_
      rintro lights rfl
      exact other lights ((reads _).1 read)
    refine (congrArg Requests.reloadLights after).trans ?_
    rw [Requests.reloadLights_askAll, kept, Requests.reloadLights_askAll]
    exact .inr (.inl mem)
  · intro lights h
    have all := congrArg Requests.reloadLights (served h)
    rw [quiet h rfl] at all
    exact all
  · intro other mem
    have kept : ((during.readUpdate e).elim pending pending.serve).reloadGroups =
        pending.reloadGroups := by
      refine Requests.elim_serve fun u read => Requests.reloadGroups_serve ?_
      rintro groups rfl
      exact other groups ((reads _).1 read)
    refine (congrArg Requests.reloadGroups after).trans ?_
    rw [Requests.reloadGroups_askAll, kept, Requests.reloadGroups_askAll]
    exact .inr (.inl mem)
  · intro groups h
    have all : (during.next e).state.reloadGroups = ((pending.serve (.groups groups)).askAll
        told).reloadGroups := congrArg Requests.reloadGroups (served h)
    rw [all, Requests.reloadGroups_askAll]
    exact ⟨fun h => h.resolve_right nofun, .inl⟩
  · exact State.plan_of_reloadLights
  · exact State.plan_of_reloadGroups

/-- While a loop lists the lights, an all-off and a reload are asked for: of these, the listing
serves the reload of the lights. -/
theorem request_kept_unless_served_of_listing :
    let s := (new .default .brief).run [.change true .runLoop, .go (.loop 0), .go (.loop 0)]
    let cs := [(true, Change.requestAllOff none), (true, .requestReload)]
    let listed : Answer := .ok ⟨200, .obj []⟩
    let after := ((s.meanwhile cs).next (.answer (.loop 0) listed true [])).state
    s.underway (.loop 0) = some .loadLights ∧ Plan.loadLights.Reads listed (.lights []) ∧
      after.allOff = some none ∧ after.reloadLights = false ∧ after.reloadGroups = true := by
  intro s cs listed after
  have kept := request_kept_unless_served s (.loop 0) .loadLights rfl cs listed true []
  have reads : Plan.loadLights.Reads listed (.lights []) :=
    .lights rfl ((listing_of_decoded rfl).trans (by simp [sortByNumber]))
  have only {u : Update} (h : Plan.loadLights.Reads listed u) : ∃ lights, u = .lights lights := by
    generalize listed = answer at h
    cases h
    exact ⟨_, rfl⟩
  refine ⟨rfl, reads, ?_, kept.lightsServed [] reads, ?_⟩
  · exact kept.allOff (fun h => nomatch only h) none rfl
  · exact kept.groups (fun _ h => nomatch only h) (.tail _ (.head _))

/-- What is asked for while its own kind is under way is lost: a second all-off, which asks for
another fade, and a reload of the lights. -/
theorem request_lost_in_step_of_its_kind :
    let off := (new .manual .brief).run [.change false (.requestAllOff none), .go (.hand 0)]
    let listing := (new .manual .brief).run [.go (.hand 0)]
    let again := Change.requestAllOff (some ⟨5.0⟩)
    off.underway (.hand 0) = some (.allOff (State.allOffCommand .manual none)) ∧
    ((off.meanwhile [(false, again)]).next
      (.answer (.hand 0) (.ok ⟨200, .arr []⟩) false [])).state.allOff = none ∧
    listing.underway (.hand 0) = some .loadLights ∧
    ((listing.meanwhile [(false, .requestReload)]).next
      (.answer (.hand 0) (.ok ⟨200, .obj []⟩) false [])).state.reloadLights = false :=
  ⟨rfl, rfl, rfl, rfl⟩

end Scene
end LightSync.Reconciler
