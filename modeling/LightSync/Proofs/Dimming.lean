import LightSync.Proofs.Forwarding
import LightSync.Proofs.Storage
import Mathlib.Data.List.Basic
import Mathlib.Data.List.Induction

/-!
# Dimming

Entities are dimmed one after the other. Those that are unknown or off are skipped; each of the
others is turned on with a quarter of the desired brightness, which ends its tracking and cancels
its timer, and then a new timer may be started. The first call of the home platform that fails ends
this: whatever comes before it is done, its own entity has no timer, and nothing after it is
touched.

The home platform may do anything when it gets a call, as long as the entities that are on stay on
and the others do not come on meanwhile (`Household.Steady`).

## Main definitions

- `performAll`: calls of the home platform, one after the other
- `Dimming`, `Household.dimming`: what entities are dimmed with
- `Household.dimCalls`: the calls that dimming makes
- `Household.Releases`: lights that are tracked no longer
- `Household.Dimmed`: entities that are all dimmed
- `Household.StopsAt`: the call for an entity is refused
- `Household.DimsInOrder`: what dimming comes to

## Main results

- `Household.Dimmed.skip`, `Household.Dimmed.turn`: one more entity
- `Household.dim_in_order`: dimming goes through the entities in order
-/

namespace LightSync

open Bridge (GroupKind)
open Reconciler (State)

namespace Reconciler.State

variable {s : State} {kind other : GroupKind} {light : String} {names : List String}

/-- A removal concerns every managed group at the place of the one that it is for. -/
theorem mem_wanted_removeLights_of_any :
    light ∈ (s.change (.removeLights other names)).1.wanted kind ↔
      light ∈ s.wanted kind ∧ (s.place kind = s.place other → light ∉ names) := by
  by_cases here : s.place kind = s.place other
  · have same (t : State) (place : ∀ kind, t.place kind = s.place kind) :
        t.wanted kind = t.wanted other := by
      have groups : t.group? kind = t.group? other :=
        group?_of_place_eq (by rw [place, place, here])
      rw [wanted, wanted, viewOf, viewOf, groups]
    rw [same _ (s.rewanted_change _).place, same s fun _ => rfl, mem_wanted_removeLights]
    exact and_congr_right fun _ => (imp_iff_right here).symm
  · rw [change, wanted_changeLights_of_apart here]
    exact (and_iff_left fun same => absurd same here).symm

/-- Lights that are removed from both memberships are wanted in neither. -/
theorem mem_wanted_removed :
    light ∈ (s.changes [.removeLights .brightness names,
      .removeLights .temperature names]).wanted kind ↔ light ∈ s.wanted kind ∧ light ∉ names := by
  rw [changes_cons, changes_cons, changes_nil, mem_wanted_removeLights_of_any,
    mem_wanted_removeLights_of_any, (s.rewanted_change _).place, (s.rewanted_change _).place]
  cases kind with
  | brightness =>
    rw [imp_iff_right rfl, and_assoc]
    exact and_congr_right fun _ => and_iff_left_of_imp fun absent _ => absent
  | temperature =>
    rw [imp_iff_right rfl, and_assoc]
    exact and_congr_right fun _ => and_iff_right_of_imp fun absent _ => absent

end Reconciler.State

namespace Household

namespace OffTimers

variable {α : Type} {t : OffTimers α}

/-- The pending timers of an entity. -/
def pendingFor (t : OffTimers α) (entityId : String) : List (OffTimer α) :=
  t.pending.filter (·.entityId = entityId)

theorem pendingFor_erase (t : OffTimers α) (erased entityId : String) :
    (t.erase erased).pendingFor entityId =
      if entityId = erased then [] else t.pendingFor entityId := by
  rw [pendingFor, erase, List.filter_filter]
  split
  · next same =>
    refine List.filter_eq_nil_iff.2 fun x _ => ?_
    simp [same]
  · next other =>
    refine List.filter_congr fun x _ => ?_
    by_cases here : x.entityId = entityId
    · simp [here, other]
    · simp [here]

theorem pendingFor_start (t : OffTimers α) (timer : OffTimer α) (entityId : String) :
    (t.start timer).pendingFor entityId =
      if entityId = timer.entityId then [timer] else t.pendingFor entityId := by
  have split : (t.start timer).pendingFor entityId =
      (t.erase timer.entityId).pendingFor entityId ++ [timer].filter (·.entityId = entityId) :=
    List.filter_append ..
  rw [split, pendingFor_erase]
  by_cases here : entityId = timer.entityId
  · simp [here]
  · simp [here, Ne.symm here]

end OffTimers

/-! ## Calls one after the other -/

section Calls

variable {σ : Type} [Host σ]

/-- The home platform knows the entity, and it is on. -/
def isLit (host : σ) (entityId : String) : Bool := (Host.entity? host entityId).any (·.isOn)

/-- Makes calls one after the other, up to the first failure. -/
abbrev performAll (host : σ) (calls : List HostCall) : σ × Except Failure Unit :=
  Run.untilFailure Host.perform host calls

end Calls

/-! ## What entities are dimmed with -/

/-- What entities are dimmed with, from a certain time on. -/
structure Dimming where
  now : Nat
  brightness : UInt8
  params : DimParams
  temperature : UInt16

/-- The parameters with which an entity is turned on. -/
def Dimming.light (d : Dimming) : LightParams :=
  ⟨some d.brightness, some (d.params.colorTemp.getD d.temperature), d.params.dimTransition⟩

/-- The timer that an entity gets, if it gets one. -/
def Dimming.timer? (d : Dimming) (id : Nat) (entityId : String) : Option (OffTimer (Option Fade)) :=
  d.params.offAfter.map fun delay =>
    ⟨id, entityId, d.now + wholeMs delay.nanoseconds, d.params.offTransition⟩

variable {σ : Type}

/-- A household that is as before, but for what is recorded and for its timers. -/
structure SameBut (h h' : Household σ) (timers : OffTimers (Option Fade)) : Prop where
  host : h'.host = h.host
  settings : h'.settings = h.settings
  desired : h'.desired = h.desired
  state : h'.sync.state = h.sync.state
  timers : h'.timers = timers

theorem sameBut_startTimer (h : Household σ) (now : Nat) (entityId : String) (delay : Fade)
    (fade : Option Fade) :
    h.SameBut (h.startTimer now entityId delay fade)
      (h.timers.start ⟨h.sync.started, entityId, now + wholeMs delay.nanoseconds, fade⟩) := by
  let tenths := Decimal.writeTenths (waitSeconds delay.nanoseconds)
  have noted := Reconciler.silent_noteAll h.sync (h.timers.startLines entityId tenths)
  refine ⟨rfl, rfl, rfl, (Reconciler.state_of_silent noted :), ?_⟩
  have id : (h.noteAll (h.timers.startLines entityId tenths)).sync.started = h.sync.started :=
    Reconciler.started_of_silent noted
  exact congrArg (fun id => h.timers.start ⟨id, entityId, _, fade⟩) id

variable [Host σ] (h : Household σ) (d : Dimming)

/-- Dims entities one after the other, up to the first failure. -/
def dimWith (ids : List String) : Household σ × Except Failure Unit :=
  h.dimAll d.now d.brightness d.params d.temperature ids

/-- The calls that dimming makes, as long as none fails. -/
def dimCalls (ids : List String) : List HostCall :=
  (ids.filter (isLit h.host)).map (.turnOn · d.light)

/-- The entity is on and not excluded, and this is one of the lights behind it. -/
def ReleasesAt (entityId light : String) : Prop :=
  ∃ e lights, Host.entity? h.host entityId = some e ∧ e.isOn = true ∧
    h.settings.isAutomatic entityId = true ∧ h.sync.state.lightsOf? e = some lights ∧
    light ∈ lights

/-- Tracking of a light ends when one of these entities gets its turn. -/
def Releases (ids : List String) (light : String) : Prop :=
  ∃ before entityId rest, ids = before ++ entityId :: rest ∧
    (h.dimWith d before).1.ReleasesAt entityId light

variable {h d} {between after : Household σ} {ids : List String} {entityId : String}
  {failure : Failure}

/-! ## One entity after the other -/

theorem isLit_eq_true_iff {host : σ} :
    isLit host entityId = true ↔ ∃ e, Host.entity? host entityId = some e ∧ e.isOn = true := by
  simp [isLit, Option.any_eq_true]

/-- What is asked for an entity that is on, by a command with a brightness and a color
temperature. -/
theorem mem_wanted_asked {e : Entity} (known : Host.entity? h.host entityId = some e)
    (on : e.isOn = true) {kind : GroupKind} {light : String} :
    light ∈ (h.sync.state.changes (h.asked (.turnOn entityId d.light))).wanted kind ↔
      light ∈ h.sync.state.wanted kind ∧ ¬ h.ReleasesAt entityId light := by
  simp only [asked, HostCall.entityId, known]
  cases automatic : h.settings.isAutomatic entityId with
  | false =>
    have none : ¬ h.ReleasesAt entityId light := by
      rintro ⟨_, _, -, -, yes, -⟩
      cases automatic.symm.trans yes
    exact (and_iff_left none).symm
  | true =>
    rw [if_pos rfl, on]
    cases lights : h.sync.state.lightsOf? e with
    | none =>
      have none : ¬ h.ReleasesAt entityId light := by
        rintro ⟨e', _, same, -, -, found, -⟩
        cases known.symm.trans same
        cases lights.symm.trans found
      exact (and_iff_left none).symm
    | some names =>
      have released : h.ReleasesAt entityId light ↔ light ∈ names.toList := by
        constructor
        · rintro ⟨e', _, same, -, -, found, mem⟩
          cases known.symm.trans same
          cases lights.symm.trans found
          exact mem
        · exact fun mem => ⟨e, names, known, on, automatic, lights, mem⟩
      rw [released]
      exact State.mem_wanted_removed

/-- What turning on an entity comes to that is on already, with a brightness and a color
temperature. -/
theorem turnOn_of_lit (h : Household σ) (d : Dimming) (lit : isLit h.host entityId = true) :
    let turned := h.turnOn entityId d.light
    Host.perform h.host (.turnOn entityId d.light) = (turned.1.host, turned.2) ∧
      turned.1.settings = h.settings ∧ turned.1.desired = h.desired ∧
      turned.1.timers = h.timers.erase entityId ∧
      ∀ kind light, light ∈ turned.1.sync.state.wanted kind ↔
        light ∈ h.sync.state.wanted kind ∧ ¬ h.ReleasesAt entityId light := by
  obtain ⟨e, known, on⟩ := isLit_eq_true_iff.1 lit
  obtain ⟨sync, same, turned⟩ := h.turnOn_of_known known d.light
  -- Both values are given, so tracking ends for both and nothing is filled in.
  have stops (kind : GroupKind) : (Decision.onTurnOn e.isOn d.light).tracking kind = .stop := by
    rw [on]
    cases kind <;> rfl
  have sent : h.sent entityId e d.light = d.light := by
    cases automatic : h.settings.isAutomatic entityId with
    | false => exact h.sent_of_excluded automatic e d.light
    | true =>
      rw [h.sent_of_automatic automatic, complete_onTurnOn, stops, stops, on]
      rfl
  rw [sent] at turned
  simp only [turned]
  refine ⟨rfl, rfl, rfl, rfl, fun kind light => ?_⟩
  have state : sync.state.unclaimed =
      (h.sync.state.changes (h.asked (.turnOn entityId d.light))).unclaimed := by
    rw [Reconciler.state_of_silent same, Reconciler.unclaimed_changeAll]
  have wanted : sync.state.wanted kind = _ := State.wanted_congr state kind
  exact wanted ▸ mem_wanted_asked known on

/-- An entity that is not on gets nothing. -/
theorem dimWith_of_unlit (d : Dimming) (unlit : isLit h.host entityId = false) :
    (h.dimWith d [entityId]).2 = .ok () ∧ h.SameBut (h.dimWith d [entityId]).1 h.timers := by
  cases known : Host.entity? h.host entityId with
  | none =>
    simp only [dimWith, dimAll, known]
    exact ⟨trivial, rfl, rfl, rfl, rfl, rfl⟩
  | some e =>
    have off : e.isOn = false := by simpa [isLit, known] using unlit
    simp only [dimWith, dimAll, known, off, Bool.false_eq_true, if_false]
    exact ⟨trivial, rfl, rfl, rfl, rfl, rfl⟩

/-- An entity that is on is turned on, and may get a timer then. -/
theorem dimWith_of_lit (d : Dimming) (lit : isLit h.host entityId = true) :
    let turned := h.turnOn entityId d.light
    (∀ failure, turned.2 = .error failure → h.dimWith d [entityId] = turned) ∧
      (turned.2 = .ok () → (h.dimWith d [entityId]).2 = .ok () ∧
        turned.1.SameBut (h.dimWith d [entityId]).1
          ((d.timer? turned.1.sync.started entityId).elim turned.1.timers
            turned.1.timers.start)) := by
  intro turned
  obtain ⟨e, known, on⟩ := isLit_eq_true_iff.1 lit
  have turn : h.turnOn entityId ⟨some d.brightness, some (d.params.colorTemp.getD d.temperature),
      d.params.dimTransition⟩ = turned := rfl
  rcases turned with ⟨after, failure | ⟨⟩⟩
  · refine ⟨fun _ _ => ?_, nofun⟩
    simp only [dimWith, dimAll, known, on, if_true, turn]
  · refine ⟨nofun, fun _ => ?_⟩
    simp only [dimWith, dimAll, known, on, if_true, turn, Dimming.timer?]
    cases d.params.offAfter with
    | none => exact ⟨trivial, rfl, rfl, rfl, rfl, rfl⟩
    | some delay => exact ⟨trivial, after.sameBut_startTimer ..⟩

theorem dimWith_cons (h : Household σ) (d : Dimming) (entityId : String) (rest : List String) :
    (∀ between failure, h.dimWith d [entityId] = (between, .error failure) →
      h.dimWith d (entityId :: rest) = (between, .error failure)) ∧
      ∀ between, h.dimWith d [entityId] = (between, .ok ()) →
        h.dimWith d (entityId :: rest) = between.dimWith d rest := by
  simp only [dimWith, dimAll]
  cases Host.entity? h.host entityId with
  | none =>
    refine ⟨fun _ _ made => ?_, fun _ made => ?_⟩
    · cases made
    · cases made
      rfl
  | some e =>
    by_cases on : e.isOn = true
    · simp only [if_pos on]
      rcases h.turnOn entityId ⟨some d.brightness, some (d.params.colorTemp.getD d.temperature),
        d.params.dimTransition⟩ with ⟨after, failure | ⟨⟩⟩
      · refine ⟨fun _ _ made => made, fun _ made => ?_⟩
        cases made
      · refine ⟨fun _ _ made => ?_, fun _ made => ?_⟩
        · cases made
        · cases made
          rfl
    · simp only [if_neg on]
      refine ⟨fun _ _ made => ?_, fun _ made => ?_⟩
      · cases made
      · cases made
        rfl

/-- Dimming is dimming of one entity after the other. -/
theorem dimWith_eq (h : Household σ) (d : Dimming) (ids : List String) :
    h.dimWith d ids = Run.untilFailure (fun h entityId => h.dimWith d [entityId]) h ids := by
  induction ids generalizing h with
  | nil => rfl
  | cons entityId rest ih =>
    obtain ⟨fails, succeeds⟩ := h.dimWith_cons d entityId rest
    rcases made : h.dimWith d [entityId] with ⟨between, failure | ⟨⟩⟩
    · simp only [Run.untilFailure, made, fails between failure made]
    · simp only [Run.untilFailure, made, succeeds between made]
      exact ih between

/-! ## Many entities -/

/-- The entities are all dimmed. -/
structure Dimmed (h : Household σ) (d : Dimming) (ids : List String) (after : Household σ) :
    Prop where
  settings : after.settings = h.settings
  desired : after.desired = h.desired
  /-- An entity that was dimmed has the timer of its last turn, or none if none was wanted. -/
  timer : ∀ before entityId rest, ids = before ++ entityId :: rest → entityId ∉ rest →
    isLit h.host entityId = true →
    let turned := ((h.dimWith d before).1.turnOn entityId d.light).1
    after.timers.pendingFor entityId = (d.timer? turned.sync.started entityId).toList
  /-- The timers of other entities are as before. -/
  others : ∀ entityId, ¬(entityId ∈ ids ∧ isLit h.host entityId = true) →
    after.timers.pendingFor entityId = h.timers.pendingFor entityId
  wanted : ∀ kind light, light ∈ after.sync.state.wanted kind ↔
    light ∈ h.sync.state.wanted kind ∧ ¬ h.Releases d ids light

/-- The home platform refuses the call for an entity, after others were dimmed. -/
structure StopsAt (h : Household σ) (d : Dimming) (before : List String) (entityId : String)
    (failure : Failure) (after : Household σ) : Prop where
  lit : isLit h.host entityId = true
  done : (h.dimWith d before).2 = .ok ()
  dimmed : h.Dimmed d before (h.dimWith d before).1
  turn : (h.dimWith d before).1.turnOn entityId d.light = (after, .error failure)
  call : Host.perform (h.dimWith d before).1.host (.turnOn entityId d.light) =
    (after.host, .error failure)
  /-- The entity has no timer, and those of others are left alone. -/
  timers : ∀ other, after.timers.pendingFor other =
    if other = entityId then [] else (h.dimWith d before).1.timers.pendingFor other
  wanted : ∀ kind light, light ∈ after.sync.state.wanted kind ↔
    light ∈ (h.dimWith d before).1.sync.state.wanted kind ∧
      ¬(h.dimWith d before).1.ReleasesAt entityId light

/-- During the calls the home platform says the same about which of the entities are on. -/
def Steady (h : Household σ) (d : Dimming) (ids : List String) : Prop :=
  ∀ calls, calls <+: h.dimCalls d ids → ∀ entityId ∈ ids,
    isLit (performAll h.host calls).1 entityId = isLit h.host entityId

/-- An entity of a list with one more at its end is the last one, or was in the list before. -/
theorem snoc_cases {before rest : List String} {last : String}
    (split : ids ++ [last] = before ++ entityId :: rest) :
    (before = ids ∧ entityId = last ∧ rest = []) ∨
      ∃ rest', rest = rest' ++ [last] ∧ ids = before ++ entityId :: rest' := by
  rcases List.eq_nil_or_concat rest with rfl | ⟨rest', x, rfl⟩
  · obtain ⟨same, ends⟩ := List.append_inj' split rfl
    cases ends
    exact .inl ⟨same.symm, rfl, rfl⟩
  · rw [List.concat_eq_append, ← List.cons_append, ← List.append_assoc] at split
    obtain ⟨same, ends⟩ := List.append_inj' split rfl
    cases ends
    exact .inr ⟨rest', List.concat_eq_append, same⟩

theorem releases_snoc {light : String} :
    h.Releases d (ids ++ [entityId]) light ↔
      h.Releases d ids light ∨ (h.dimWith d ids).1.ReleasesAt entityId light := by
  constructor
  · rintro ⟨before, x, rest, split, releases⟩
    rcases snoc_cases split with ⟨rfl, rfl, -⟩ | ⟨rest', -, same⟩
    · exact .inr releases
    · exact .inl ⟨before, x, rest', same, releases⟩
  · rintro (⟨before, x, rest, same, releases⟩ | releases)
    · exact ⟨before, x, rest ++ [entityId], by simp [same], releases⟩
    · exact ⟨ids, entityId, [], rfl, releases⟩

theorem dimmed_nil (h : Household σ) (d : Dimming) : h.Dimmed d [] h where
  settings := rfl
  desired := rfl
  timer before entityId rest none := by simp at none
  others _ _ := rfl
  wanted kind light := by
    have none : ¬ h.Releases d [] light := fun ⟨_, _, _, split, _⟩ => by simp at split
    exact (and_iff_left none).symm

/-- One more entity that is not on. -/
theorem Dimmed.skip (dimmed : h.Dimmed d ids (h.dimWith d ids).1)
    (steady : isLit (h.dimWith d ids).1.host entityId = isLit h.host entityId)
    (unlit : isLit h.host entityId = false)
    (same : (h.dimWith d ids).1.SameBut after (h.dimWith d ids).1.timers) :
    h.Dimmed d (ids ++ [entityId]) after where
  settings := same.settings.trans dimmed.settings
  desired := same.desired.trans dimmed.desired
  timer before x rest split fresh lit := by
    rcases snoc_cases split with ⟨-, rfl, -⟩ | ⟨rest', rfl, split'⟩
    · exact nomatch unlit.symm.trans lit
    · rw [same.timers]
      exact dimmed.timer before x rest' split' (fun mem => fresh (List.mem_append_left _ mem)) lit
  others x other := by
    rw [same.timers]
    exact dimmed.others x fun ⟨mem, lit⟩ => other ⟨List.mem_append_left _ mem, lit⟩
  wanted kind light := by
    have none : ¬(h.dimWith d ids).1.ReleasesAt entityId light := by
      rintro ⟨e, _, known, on, -⟩
      have lit := isLit_eq_true_iff.2 ⟨e, known, on⟩
      exact nomatch (steady.trans unlit).symm.trans lit
    rw [same.state, dimmed.wanted, releases_snoc, or_iff_left none]

theorem pendingFor_timer? (d : Dimming) (id : Nat) (t : OffTimers (Option Fade))
    (entityId other : String) :
    ((d.timer? id entityId).elim (t.erase entityId) (t.erase entityId).start).pendingFor other =
      if other = entityId then (d.timer? id entityId).toList else t.pendingFor other := by
  unfold Dimming.timer?
  cases d.params.offAfter with
  | none => exact OffTimers.pendingFor_erase t entityId other
  | some delay =>
    refine (OffTimers.pendingFor_start ..).trans ?_
    rw [OffTimers.pendingFor_erase]
    split <;> rfl

/-- One more entity that is turned on. -/
theorem Dimmed.turn (dimmed : h.Dimmed d ids (h.dimWith d ids).1)
    (steady : isLit (h.dimWith d ids).1.host entityId = isLit h.host entityId)
    (lit : isLit h.host entityId = true)
    (same : let turned := ((h.dimWith d ids).1.turnOn entityId d.light).1
      turned.SameBut after
        ((d.timer? turned.sync.started entityId).elim turned.timers turned.timers.start)) :
    h.Dimmed d (ids ++ [entityId]) after := by
  obtain ⟨-, settings, desired, timers, wanted⟩ :=
    turnOn_of_lit (h.dimWith d ids).1 d (steady.trans lit)
  have pending (other : String) := by
    have := pendingFor_timer? d ((h.dimWith d ids).1.turnOn entityId d.light).1.sync.started
      (h.dimWith d ids).1.timers entityId other
    rwa [← timers, ← same.timers] at this
  refine ⟨same.settings.trans (settings.trans dimmed.settings),
    same.desired.trans (desired.trans dimmed.desired), ?_, ?_, ?_⟩
  · intro before x rest split fresh litX
    rcases snoc_cases split with ⟨rfl, rfl, -⟩ | ⟨rest', rfl, split'⟩
    · rw [pending, if_pos rfl]
    · -- The entity has no later turn, so the last entity is another one.
      have differ : x ≠ entityId := fun same => fresh (by simp [same])
      rw [pending, if_neg differ]
      exact dimmed.timer before x rest' split' (fun mem => fresh (List.mem_append_left _ mem)) litX
  · intro x other
    have differ : x ≠ entityId := fun same => other ⟨by simp [same], same ▸ lit⟩
    rw [pending, if_neg differ]
    exact dimmed.others x fun ⟨mem, litX⟩ => other ⟨List.mem_append_left _ mem, litX⟩
  · intro kind light
    rw [same.state, wanted, dimmed.wanted, releases_snoc, not_or, and_assoc]

theorem dimCalls_snoc :
    h.dimCalls d (ids ++ [entityId]) = h.dimCalls d ids ++
      if isLit h.host entityId then [.turnOn entityId d.light] else [] := by
  rw [dimCalls, List.filter_append, List.map_append, dimCalls]
  cases lit : isLit h.host entityId with
  | false => simp [lit]
  | true => simp [lit]

theorem dimCalls_prefix_snoc (h : Household σ) (d : Dimming) (ids : List String)
    (entityId : String) : h.dimCalls d ids <+: h.dimCalls d (ids ++ [entityId]) := by
  rw [dimCalls_snoc]
  exact List.prefix_append ..

theorem dimWith_snoc_of_ok (done : (h.dimWith d ids).2 = .ok ()) :
    h.dimWith d (ids ++ [entityId]) = (h.dimWith d ids).1.dimWith d [entityId] := by
  have made : Run.untilFailure _ h ids = ((h.dimWith d ids).1, .ok ()) :=
    (dimWith_eq h d ids).symm.trans (Prod.ext rfl done)
  rw [dimWith_eq h, Run.untilFailure_append_of_ok made, Run.untilFailure_single]

theorem dimWith_snoc_of_error (failed : (h.dimWith d ids).2 = .error failure) :
    h.dimWith d (ids ++ [entityId]) = ((h.dimWith d ids).1, .error failure) := by
  have made : Run.untilFailure _ h ids = ((h.dimWith d ids).1, .error failure) :=
    (dimWith_eq h d ids).symm.trans (Prod.ext rfl failed)
  rw [dimWith_eq h, Run.untilFailure_append_of_error made]

theorem Steady.of_snoc (steady : h.Steady d (ids ++ [entityId])) : h.Steady d ids :=
  fun calls made x mem => steady calls
    (made.trans (dimCalls_prefix_snoc h d ids entityId)) x (List.mem_append_left _ mem)

/-- What dimming comes to. -/
structure DimsInOrder (h : Household σ) (d : Dimming) (ids : List String) (after : Household σ)
    (result : Except Failure Unit) : Prop where
  calls : performAll h.host (h.dimCalls d ids) = (after.host, result)
  dimmed : result = .ok () → h.Dimmed d ids after
  stopped : ∀ failure, result = .error failure → ∃ before entityId rest,
    ids = before ++ entityId :: rest ∧ h.StopsAt d before entityId failure after

/-- Nothing happens after a failure. -/
theorem DimsInOrder.of_failed (ordered : h.DimsInOrder d ids after (.error failure)) :
    h.DimsInOrder d (ids ++ [entityId]) after (.error failure) where
  calls := by
    rw [dimCalls_snoc]
    exact Run.untilFailure_append_of_error ordered.calls
  dimmed := nofun
  stopped failure' same := by
    obtain ⟨before, x, rest, split, stops⟩ := ordered.stopped failure' same
    exact ⟨before, x, rest ++ [entityId], by simp [split], stops⟩

/-- After a success it is the turn of one more entity. -/
theorem DimsInOrder.turn (steady : isLit (h.dimWith d ids).1.host entityId = isLit h.host entityId)
    (done : (h.dimWith d ids).2 = .ok ())
    (ordered : h.DimsInOrder d ids (h.dimWith d ids).1 (.ok ())) :
    let last := (h.dimWith d ids).1.dimWith d [entityId]
    h.DimsInOrder d (ids ++ [entityId]) last.1 last.2 := by
  have dimmed := ordered.dimmed rfl
  have calls (more : List HostCall) :
      performAll h.host (h.dimCalls d ids ++ more) = performAll (h.dimWith d ids).1.host more :=
    Run.untilFailure_append_of_ok ordered.calls
  cases lit : isLit h.host entityId with
  | false =>
    obtain ⟨ok, same⟩ := dimWith_of_unlit d (steady.trans lit)
    simp only [ok]
    refine ⟨?_, fun _ => dimmed.skip steady lit same, nofun⟩
    rw [dimCalls_snoc, lit, same.host]
    exact calls []
  | true =>
    obtain ⟨fails, succeeds⟩ := dimWith_of_lit d (steady.trans lit)
    obtain ⟨call, -, -, timers, wanted⟩ := turnOn_of_lit (h.dimWith d ids).1 d (steady.trans lit)
    have performed : performAll h.host (h.dimCalls d (ids ++ [entityId])) =
        Host.perform (h.dimWith d ids).1.host (.turnOn entityId d.light) := by
      rw [dimCalls_snoc, lit]
      exact (calls _).trans (Run.untilFailure_single ..)
    cases turned : ((h.dimWith d ids).1.turnOn entityId d.light).2 with
    | error failure =>
      have eq : (h.dimWith d ids).1.turnOn entityId d.light = (_, .error failure) :=
        Prod.ext rfl turned
      simp only [fails failure turned]
      rw [turned] at call ⊢
      refine ⟨performed.trans call, nofun, ?_⟩
      rintro _ ⟨⟩
      refine ⟨ids, entityId, [], rfl, lit, done, dimmed, eq, call, fun other => ?_, wanted⟩
      rw [timers, OffTimers.pendingFor_erase]
    | ok =>
      obtain ⟨ok, same⟩ := succeeds turned
      rw [turned] at call
      simp only [ok]
      refine ⟨?_, fun _ => dimmed.turn steady lit same, nofun⟩
      rw [performed, call, same.host]

/-- Dimming goes through the entities in order. -/
theorem dimWith_inOrder (steady : h.Steady d ids) :
    h.DimsInOrder d ids (h.dimWith d ids).1 (h.dimWith d ids).2 := by
  -- What the last entity comes to depends on the household that those before it leave.
  induction ids using List.reverseRecOn with
  | nil => exact ⟨rfl, fun _ => dimmed_nil h d, nofun⟩
  | append_singleton ids entityId ih =>
    have ordered := ih steady.of_snoc
    cases done : (h.dimWith d ids).2 with
    | error failure =>
      rw [done] at ordered
      rw [dimWith_snoc_of_error done]
      exact ordered.of_failed
    | ok =>
      rw [done] at ordered
      -- The calls that were made are those up to here, so the last entity is as it was.
      have lit := steady (h.dimCalls d ids) (dimCalls_prefix_snoc h d ids entityId) entityId
        (List.mem_append_right _ (List.mem_singleton_self _))
      rw [ordered.calls] at lit
      rw [dimWith_snoc_of_ok done]
      exact ordered.turn lit done

/-- What a call of the service dims with: a quarter of the desired brightness, within bounds, and
the color temperature of the call or else the desired one. -/
def dimming (h : Household σ) (now : Nat) (call : ServiceCall DimParams) : Dimming :=
  ⟨now, .ofNat (min 255 (max 3 (h.desired.brightness.toNat / 4))), call.params,
    h.desired.temperature⟩

theorem dim_eq (h : Household σ) (now : Nat) (call : ServiceCall DimParams) :
    h.dim now call = h.dimWith (h.dimming now call) call.entityIds := by
  have clamped (n : Nat) : (Decimal.clampInt 3 255 (n : Int)).toNat = min 255 (max 3 n) :=
    Decimal.toNat_clampInt n (by decide)
  rw [dim, clampDesired, clamped]
  rfl

/-- Dimming goes through the entities in order, and turns on those that are on, up to the first
that fails. If none does, each of them has the timer of its last turn and is tracked no longer, and
nothing else is different; if one fails, then this is so up to it, it has no timer, and nothing
happens for those after it. -/
theorem dim_in_order (h : Household σ) (now : Nat) (call : ServiceCall DimParams)
    (steady : h.Steady (h.dimming now call) call.entityIds) :
    h.DimsInOrder (h.dimming now call) call.entityIds (h.dim now call).1 (h.dim now call).2 := by
  rw [dim_eq]
  exact dimWith_inOrder steady

/-- A scripted home platform does nothing but take calls down. -/
theorem performAll_scripted (host : Simulation.ScriptedHost) (calls : List HostCall) :
    ∃ made, (performAll host calls).1 = { host with calls := made } := by
  induction calls generalizing host with
  | nil => exact ⟨host.calls, rfl⟩
  | cons call rest ih =>
    rcases done : Host.perform host call with ⟨between, failure | ⟨⟩⟩
    · have made : (performAll host (call :: rest)).1 = between := by
        simp only [performAll, Run.untilFailure, done]
      exact ⟨host.calls ++ [call], made.trans (congrArg Prod.fst done).symm⟩
    · have made : performAll host (call :: rest) = performAll between rest := by
        simp only [performAll, Run.untilFailure, done]
      have noted : between = { host with calls := host.calls ++ [call] } :=
        (congrArg Prod.fst done).symm
      obtain ⟨all, is⟩ := ih between
      exact ⟨all, made ▸ noted ▸ is⟩

theorem steady_scripted (h : Household Simulation.ScriptedHost) (d : Dimming) (ids : List String) :
    h.Steady d ids := by
  intro calls _ entityId _
  obtain ⟨made, taken⟩ := performAll_scripted h.host calls
  rw [taken]
  rfl

/-- A scripted home platform refuses the calls for those entities that it was told to. -/
theorem StopsAt.refused_scripted {h after : Household Simulation.ScriptedHost} {d : Dimming}
    {before : List String} {entityId : String} {failure : Failure}
    (stops : h.StopsAt d before entityId failure after) :
    ∃ message, h.host.failing.lookup entityId = some message := by
  obtain ⟨made, taken⟩ := performAll_scripted h.host (h.dimCalls d before)
  rw [(dimWith_inOrder (h.steady_scripted d before)).calls] at taken
  have host : (h.dimWith d before).1.host = { h.host with calls := made } := taken
  have result := congrArg Prod.snd stops.call
  rw [host] at result
  cases told : h.host.failing.lookup entityId with
  | none => simp [Host.perform, HostCall.entityId, told] at result
  | some message => exact ⟨message, rfl⟩

/-- Some of the entities are unknown or off, one is there several times, and the home platform
refuses the call for another one. -/
theorem dim_in_order_of_refusal :
    let host := { Simulation.ScriptedHost.ofEntities [
        (Entity.light "light.a" "one" "a").on none none, .light "light.b" "two" "b",
        (Entity.light "light.c" "three" "c").on none none] with failing := [("light.c", "gone")] }
    let h := { DrivenHouse.twoLights.house with
      host, timers := ⟨[⟨0, "light.c", 5, none⟩, ⟨1, "light.b", 9, none⟩]⟩ }
    let ids := ["light.a", "light.x", "light.b", "light.a", "light.c", "light.a"]
    let dimmed := h.dim 0 ⟨ids, ⟨some 300, none, some (.ofSeconds 60.0), none⟩⟩
    h.desired.brightness = 255 ∧ dimmed.2 = .error (.host "gone") ∧
      dimmed.1.host.calls = [.turnOn "light.a" ⟨some 63, some 300, none⟩,
        .turnOn "light.a" ⟨some 63, some 300, none⟩,
        .turnOn "light.c" ⟨some 63, some 300, none⟩] ∧
      (dimmed.1.timers.pendingFor "light.a").length = 1 ∧
      dimmed.1.timers.pendingFor "light.b" = [⟨1, "light.b", 9, none⟩] ∧
      dimmed.1.timers.pendingFor "light.c" = [] := by
  intro host h ids dimmed
  let call : ServiceCall DimParams := ⟨ids, ⟨some 300, none, some (.ofSeconds 60.0), none⟩⟩
  let d := h.dimming 0 call
  obtain ⟨calls, -, stopped⟩ := dim_in_order h 0 call (h.steady_scripted d ids)
  have turns : h.dimCalls d ids = [.turnOn "light.a" ⟨some 63, some 300, none⟩,
      .turnOn "light.a" ⟨some 63, some 300, none⟩, .turnOn "light.c" ⟨some 63, some 300, none⟩,
      .turnOn "light.a" ⟨some 63, some 300, none⟩] := by
    decide +kernel
  rw [turns] at calls
  have failed : dimmed.2 = .error (.host "gone") := (congrArg Prod.snd calls).symm
  obtain ⟨before, entityId, rest, split, stops⟩ := stopped _ failed
  obtain ⟨message, refused⟩ := stops.refused_scripted
  have here : entityId = "light.c" := by
    by_contra other
    simp only [h, host, List.lookup_cons, beq_false_of_ne other, List.lookup_nil] at refused
    cases refused
  subst here
  -- It is there once, so what was done before it is settled too.
  have there : ["light.a", "light.x", "light.b", "light.a"] ++ "light.c" :: ["light.a"] =
      before ++ "light.c" :: rest := split
  obtain ⟨rfl, -, rfl⟩ := (List.append_cons_inj_of_notMem (by decide) (by decide)).1 there
  refine ⟨by decide +kernel, failed, (congrArg (·.1.calls) calls).symm, ?_, ?_, ?_⟩
  · rw [stops.timers, if_neg (by decide),
      stops.dimmed.timer ["light.a", "light.x", "light.b"] "light.a" [] rfl (by decide)
        (by decide +kernel)]
    rfl
  · have off : isLit h.host "light.b" = false := by decide +kernel
    rw [stops.timers, if_neg (by decide), stops.dimmed.others "light.b" fun other =>
      absurd (off.symm.trans other.2) (by decide)]
    decide
  · rw [stops.timers, if_pos rfl]

end Household
end LightSync
