import LightSync.Proofs.Household
import LightSync.Proofs.Membership
import LightSync.Simulation.Script

/-!
# Tracking follows the last decisive command

Light entities are turned on and off in any order, the home platform answers what it likes, and the
memberships and values of the two managed groups are brought to the bridge in between. A light is
wanted in a managed group exactly if the last command to its entity that decided about it started
its tracking, or, where none did, if it was wanted there at the start.

## Main definitions

- `Order`, `Order.verdict`: a command that was given, and what it says about a membership
- `lastDecisive`: what the last command that did not leave a membership as it was said about it
- `DrivenHouse`, `DrivenHouse.next`, `DrivenHouse.orders`: a household whose reconciler is driven
- `Assignment`: entities for single lights, each with a light of its own
-/

namespace LightSync.Household

open Bridge (GroupKind)
open Reconciler (State Scene Plan Change)

/-! ## What commands decide -/

/-- A command that was given, with whether its light was on before. -/
structure Order where
  call : HostCall
  wasOn : Bool
deriving DecidableEq

/-- What a command says about a membership. Turning off ends tracking, and so does turning on with
the value; turning on without it starts tracking, unless the light was on and the other value is
given. -/
def Order.verdict (o : Order) (kind : GroupKind) : Tracking :=
  match o.call with
  | .turnOff _ _ => .stop
  | .turnOn _ params =>
    let (given, otherGiven) := match kind with
      | .brightness => (params.brightness.isSome, params.colorTemp.isSome)
      | .temperature => (params.colorTemp.isSome, params.brightness.isSome)
    if given then .stop
    else if !o.wasOn || !otherGiven then .start
    else .keep

/-- What the last command to an entity said about a membership, of those that did not leave it as it
was. -/
def lastDecisive (orders : List Order) (entityId : String) (kind : GroupKind) : Option Tracking :=
  (((orders.filter (·.call.entityId = entityId)).map (·.verdict kind)).filter (· ≠ .keep)).getLast?

theorem tracking_onTurnOn (entityId : String) (params : LightParams) (wasOn : Bool)
    (kind : GroupKind) :
    (Decision.onTurnOn wasOn params).tracking kind =
      Order.verdict ⟨.turnOn entityId params, wasOn⟩ kind := by
  obtain ⟨brightness, colorTemp, transition⟩ := params
  cases brightness <;> cases colorTemp <;> cases wasOn <;> cases kind <;> rfl

theorem lastDecisive_append (first second : List Order) (entityId : String) (kind : GroupKind) :
    lastDecisive (first ++ second) entityId kind =
      (lastDecisive second entityId kind).or (lastDecisive first entityId kind) := by
  simp only [lastDecisive, List.filter_append, List.map_append, List.getLast?_append]

theorem lastDecisive_of_ne {o : Order} {entityId : String} (other : o.call.entityId ≠ entityId)
    (kind : GroupKind) : lastDecisive [o] entityId kind = none := by
  simp [lastDecisive, other]

theorem lastDecisive_single (o : Order) (kind : GroupKind) :
    lastDecisive [o] o.call.entityId kind =
      if o.verdict kind = .keep then none else o.verdict kind := by
  by_cases keeps : o.verdict kind = .keep
  · simp [lastDecisive, keeps]
  · simp [lastDecisive, keeps]

/-- What tracking makes of a membership for lights that it is about, and for others. -/
def Tracking.Makes (t : Tracking) (about before : Prop) : Prop :=
  match t with
  | .start => about ∨ before
  | .stop => before ∧ ¬ about
  | .keep => before

theorem Tracking.makes_of_not {t : Tracking} {about before : Prop} (other : ¬ about) :
    t.Makes about before ↔ before := by
  cases t with
  | start => exact or_iff_right other
  | stop => exact and_iff_left other
  | keep => exact Iff.rfl

/-- For the light that a command is about, the command decides alone unless it says nothing. -/
theorem Order.makes_iff (o : Order) (kind : GroupKind) {about before : Prop} (holds : about) :
    (o.verdict kind).Makes about before ↔
      (lastDecisive [o] o.call.entityId kind).elim before (· = .start) := by
  rw [lastDecisive_single]
  cases o.verdict kind with
  | start => simp [Tracking.Makes, holds]
  | stop => simp [Tracking.Makes, holds]
  | keep => simp [Tracking.Makes]

/-! ## What decisions do to the memberships -/

section Memberships

variable {s : State} {kind other : GroupKind} {light number : String}

theorem mem_wanted_tracking (known : (s.group? kind).isSome = true) (nonempty : number ≠ "")
    (t : Tracking) :
    light ∈ (s.changes (t.changes kind (.singleton number))).wanted kind ↔
      t.Makes (light = number) (light ∈ s.wanted kind) := by
  have single : light ∈ (NameSet.singleton number).toList ↔ light = number := NameSet.mem_singleton
  cases t with
  | start =>
    refine (State.mem_wanted_addLights known).trans (or_congr_left ?_)
    rw [single]
    exact ⟨And.left, fun same => ⟨same, same ▸ nonempty⟩⟩
  | stop =>
    refine State.mem_wanted_removeLights.trans (and_congr_right fun _ => ?_)
    rw [single]
  | keep => exact Iff.rfl

theorem wanted_tracking_of_apart (apart : s.place other ≠ s.place kind) (t : Tracking)
    (lights : NameSet) : (s.changes (t.changes kind lights)).wanted other = s.wanted other := by
  cases t with
  | start => exact State.wanted_changeLights_of_apart apart
  | stop => exact State.wanted_changeLights_of_apart apart
  | keep => rfl

/-- A decision about a light is made for each membership by itself. -/
theorem mem_wanted_decision (groups : s.TwoGroups) (nonempty : number ≠ "") (d : Decision)
    (kind : GroupKind) :
    light ∈ (s.changes (d.changes (some (.singleton number)))).wanted kind ↔
      (d.tracking kind).Makes (light = number) (light ∈ s.wanted kind) := by
  rw [Decision.changes, State.changes_append]
  let between := s.changes
    ((d.tracking .brightness).changes .brightness (.singleton number))
  have betweenGroups : between.TwoGroups := groups.rewanted (s.rewanted_changes _)
  cases kind with
  | brightness =>
    rw [wanted_tracking_of_apart betweenGroups.apart]
    exact mem_wanted_tracking (groups.known .brightness) nonempty _
  | temperature =>
    have same : between.wanted .temperature = s.wanted .temperature :=
      wanted_tracking_of_apart groups.apart.symm _ _
    rw [← same]
    exact mem_wanted_tracking (betweenGroups.known .temperature) nonempty _

end Memberships

/-! ## Commands and steps in any order -/

/-- A household whose reconciler is driven. -/
structure DrivenHouse (σ : Type) where
  house : Household σ
  hands : Nat → Option Plan

/-- Entities that stand for single lights, each with the number of a light of its own. -/
structure Assignment where
  entities : List String
  number : String → String
  nonempty : ∀ entityId ∈ entities, number entityId ≠ ""
  distinct : ∀ a ∈ entities, ∀ b ∈ entities, number a = number b → a = b

namespace DrivenHouse

variable {σ : Type} [Host σ] (h : DrivenHouse σ)

abbrev state (h : DrivenHouse σ) : State := h.house.sync.state

def scene (h : DrivenHouse σ) : Scene := ⟨h.house.sync, h.hands⟩

inductive Event (σ : Type) where
  /-- An entity is turned on or off. -/
  | command (call : HostCall)
  /-- The home platform has come to know something else. -/
  | host (host : σ)
  /-- Something happens to the reconciler. -/
  | sync (e : Scene.Event)

def next (h : DrivenHouse σ) : Event σ → DrivenHouse σ
  | .command call => { h with house := (h.house.obey call).1 }
  | .host host => { h with house := { h.house with host } }
  | .sync e =>
    let s := h.scene.next e
    ⟨{ h.house with sync := s.sync }, s.hands⟩

abbrev run (h : DrivenHouse σ) (events : List (Event σ)) : DrivenHouse σ := Run.after next h events

/-- The command that is given in an event, if its entity is known. -/
def orderIn (h : DrivenHouse σ) : Event σ → List Order
  | .command call =>
    ((Host.entity? h.house.host call.entityId).map fun e => ⟨call, e.isOn⟩).toList
  | _ => []

/-- The commands that are given in a run. -/
def orders (h : DrivenHouse σ) : List (Event σ) → List Order
  | [] => []
  | e :: events => h.orderIn e ++ orders (h.next e) events

/-- A command to one of the entities, which is not excluded, and stands for the light with its
number. -/
structure Covers (a : Assignment) (h : DrivenHouse σ) (call : HostCall) : Prop where
  mem : call.entityId ∈ a.entities
  automatic : h.house.settings.isAutomatic call.entityId = true
  plain : ∃ e uniqueId, Host.entity? h.house.host call.entityId = some e ∧
    e.isBridgeGroup = false ∧ e.uniqueId = some uniqueId ∧
    h.state.numberOfId? uniqueId = some (a.number call.entityId)

/-- Commands go to the entities, the platform may do anything, and the reconciler neither lists the
groups nor turns all lights off. -/
def Admits (a : Assignment) (h : DrivenHouse σ) : Event σ → Prop
  | .command call => h.Covers a call
  | .host _ => True
  | .sync e => h.scene.Routine e

variable {h} {a : Assignment}

/-- A command to one of the entities asks for what it says about the light of that entity. -/
theorem asked_of_covers {call : HostCall} (covers : h.Covers a call) :
    ∃ e, ∃ d : Decision, Host.entity? h.house.host call.entityId = some e ∧
      h.house.asked call = d.changes (some (.singleton (a.number call.entityId))) ∧
      ∀ kind, d.tracking kind = Order.verdict ⟨call, e.isOn⟩ kind := by
  obtain ⟨e, uniqueId, found, plain, hardware, number⟩ := covers.plain
  have lights : h.state.lightsOf? e = some (.singleton (a.number call.entityId)) := by
    rw [State.lightsOf?, if_neg (Bool.eq_false_iff.1 plain), hardware, Option.bind_some, number,
      Option.map_some]
  unfold asked
  rw [found]
  simp only [lights]
  cases call with
  | turnOn entityId params =>
    have automatic : h.house.settings.isAutomatic entityId = true := covers.automatic
    refine ⟨e, .onTurnOn e.isOn params, rfl, if_pos automatic, ?_⟩
    exact tracking_onTurnOn entityId params e.isOn
  | turnOff entityId params =>
    refine ⟨e, .onTurnOff, rfl, rfl, fun kind => ?_⟩
    cases kind <;> rfl

/-- A command makes of both memberships what it says, and of other lights nothing. -/
theorem mem_wanted_command (groups : h.state.TwoGroups) {call : HostCall}
    (covers : h.Covers a call) :
    ∃ o, h.orderIn (.command call) = [o] ∧ o.call = call ∧ ∀ kind light,
      light ∈ (h.next (.command call)).state.wanted kind ↔
        (o.verdict kind).Makes (light = a.number call.entityId) (light ∈ h.state.wanted kind) := by
  obtain ⟨e, d, found, asked, verdict⟩ := asked_of_covers covers
  refine ⟨⟨call, e.isOn⟩, by rw [orderIn, found]; rfl, rfl, fun kind light => ?_⟩
  have made := State.wanted_congr (h.house.becomes_obey call).state kind
  have after : (h.next (.command call)).state.wanted kind =
      (h.state.changes (h.house.asked call)).wanted kind := made
  rw [after, asked, ← verdict]
  exact mem_wanted_decision groups (a.nonempty _ covers.mem) d kind

theorem twoGroups_next {e : Event σ} (ok : h.Admits a e) (groups : h.state.TwoGroups) :
    (h.next e).state.TwoGroups := by
  cases e with
  | command call =>
    exact (groups.rewanted (h.state.rewanted_changes _)).congr
      (h.house.becomes_obey call).state.symm
  | host host => exact groups
  | sync e => exact Scene.twoGroups_next ok groups

theorem twoGroups_run {events : List (Event σ)} (admitted : Run.Admitted next (Admits a) h events)
    (groups : h.state.TwoGroups) : (h.run events).state.TwoGroups := by
  have kept (h : DrivenHouse σ) (e : Event σ) (groups : h.state.TwoGroups) (ok : h.Admits a e) :
      (h.next e).state.TwoGroups := twoGroups_next ok groups
  exact Run.invariant kept admitted groups

/-- What an event does to the membership of an entity's light. -/
theorem mem_wanted_next {e : Event σ} (ok : h.Admits a e) (groups : h.state.TwoGroups)
    {entityId : String} (mem : entityId ∈ a.entities) (kind : GroupKind) :
    a.number entityId ∈ (h.next e).state.wanted kind ↔
      (lastDecisive (h.orderIn e) entityId kind).elim
        (a.number entityId ∈ h.state.wanted kind) (· = .start) := by
  cases e with
  | command call =>
    obtain ⟨o, given, same, makes⟩ := mem_wanted_command groups ok
    rw [makes, given]
    by_cases mine : call.entityId = entityId
    · subst mine
      rw [← same]
      exact o.makes_iff kind rfl
    · have other : a.number entityId ≠ a.number call.entityId :=
        fun same => mine (a.distinct _ mem _ ok.mem same).symm
      rw [Tracking.makes_of_not other, lastDecisive_of_ne (same ▸ mine)]
      exact Iff.rfl
  | host host => exact Iff.rfl
  | sync e =>
    have same : (h.next (.sync e)).state.wanted kind = h.state.wanted kind :=
      Scene.wanted_next ok groups kind
    rw [same]
    exact Iff.rfl

/-- Tracking follows the last decisive command. Let both managed groups be known and be different
groups, and let every entity that commands go to have a light of its own. Whatever the home platform
answers, and whatever steps for memberships and values are made in between: the light of an entity
is wanted in a managed group exactly if the last command to the entity that decided about this group
started tracking, or if none did and the light was wanted there at the start. A command to an entity
changes no membership of another light. -/
theorem tracking_follows_last_decisive_command (a : Assignment) (h : DrivenHouse σ)
    (groups : h.state.TwoGroups) (events : List (Event σ))
    (admitted : Run.Admitted next (Admits a) h events) :
    let after := h.run events
    (∀ entityId ∈ a.entities, ∀ kind, a.number entityId ∈ after.state.wanted kind ↔
      (lastDecisive (h.orders events) entityId kind).elim
        (a.number entityId ∈ h.state.wanted kind) (· = .start)) ∧
    ∀ call, after.Covers a call → ∀ kind light, light ≠ a.number call.entityId →
      (light ∈ (after.next (.command call)).state.wanted kind ↔
        light ∈ after.state.wanted kind) := by
  intro after
  refine ⟨?_, ?_⟩
  · intro entityId mem kind
    -- The events after the first one decide, or leave what the first one made.
    induction events generalizing h with
    | nil => exact Iff.rfl
    | cons e rest ih =>
      obtain ⟨here, later⟩ := admitted
      refine (ih (h.next e) (twoGroups_next here groups) later).trans ?_
      rw [orders, lastDecisive_append]
      cases lastDecisive ((h.next e).orders rest) entityId kind with
      | some t => exact Iff.rfl
      | none => exact mem_wanted_next here groups mem kind
  · intro call covers kind light other
    have groups' : after.state.TwoGroups := twoGroups_run admitted groups
    obtain ⟨o, -, -, makes⟩ := mem_wanted_command groups' covers
    rw [makes, Tracking.makes_of_not other]

/-- Two entities, for light 1 and for light 2. -/
def twoEntities : Assignment where
  entities := ["light.a", "light.b"]
  number entityId := if entityId = "light.a" then "1" else "2"
  nonempty := by decide
  distinct := by decide

/-- A household after its lights 1 and 2 and two groups without lights were listed. -/
def twoLights : DrivenHouse Simulation.ScriptedHost :=
  let settings := { SyncSettings.manual with brightnessGroup := "A", temperatureGroup := "B" }
  let state := (State.empty.update settings (.lights [⟨"1", "a", "one"⟩, ⟨"2", "b", "two"⟩])).update
    settings (.groups [.listed "1" "A" ∅, .listed "2" "B" ∅])
  let host := .ofEntities [.light "light.a" "one" "a", .light "light.b" "two" "b"]
  ⟨.new .default host { Reconciler.new settings .brief with state }, fun _ => none⟩

/-- Both lights are turned on, and a membership is sent. Then light 1, which is on by now, is given
a color temperature: it stays wanted for its brightness, and light 2 is not concerned. -/
theorem tracking_follows_last_decisive_command_of_color :
    let events : List (Event Simulation.ScriptedHost) := [
      .command (.turnOn "light.a" .none), .command (.turnOn "light.b" .none),
      .sync (.go (.hand 0)), .sync (.answer (.hand 0) (.ok ⟨200, .arr []⟩) true []),
      .host (.ofEntities [(Entity.light "light.a" "one" "a").on none none,
        .light "light.b" "two" "b"]),
      .command (.turnOn "light.a" ⟨none, some 300, none⟩)]
    let after := twoLights.run events
    lastDecisive (twoLights.orders events) "light.a" .brightness = some .start ∧
      "1" ∈ after.state.wanted .brightness ∧
      lastDecisive (twoLights.orders events) "light.a" .temperature = some .stop ∧
      "1" ∉ after.state.wanted .temperature ∧
      ("2" ∈ (after.next (.command (.turnOff "light.a" .none))).state.wanted .brightness ↔
        "2" ∈ after.state.wanted .brightness) := by
  intro events after
  have groups : twoLights.state.TwoGroups :=
    ⟨fun kind => by cases kind <;> decide +kernel, by decide +kernel⟩
  have sent (plan : Plan)
      (planned : (twoLights.run (events.take 3)).scene.underway (.hand 0) = some plan) :
      Scene.Writes plan := by
    have is : (twoLights.run (events.take 3)).scene.underway (.hand 0) =
        some (.membership .brightness "/groups/1" (.ofList ["1", "2"])) := by decide +kernel
    cases is.symm.trans planned
    exact .inl rfl
  have admitted : Run.Admitted next (Admits twoEntities) twoLights events := by
    refine ⟨⟨by decide, by decide +kernel, .light "light.a" "one" "a", "one", ?_⟩,
      ⟨by decide, by decide +kernel, .light "light.b" "two" "b", "two", ?_⟩, trivial, sent, trivial,
      ⟨by decide, by decide +kernel, (Entity.light "light.a" "one" "a").on none none, "one", ?_⟩,
      trivial⟩
    · decide +kernel
    · decide +kernel
    · decide +kernel
  have covers : after.Covers twoEntities (.turnOff "light.a" .none) := by
    refine ⟨by decide, by decide +kernel,
      (Entity.light "light.a" "one" "a").on none none, "one", ?_⟩
    decide +kernel
  obtain ⟨follows, others⟩ :=
    tracking_follows_last_decisive_command twoEntities twoLights groups events admitted
  have started : lastDecisive (twoLights.orders events) "light.a" .brightness = some .start := by
    decide +kernel
  have stopped : lastDecisive (twoLights.orders events) "light.a" .temperature = some .stop := by
    decide +kernel
  have bright := follows "light.a" (by decide) .brightness
  have warm := follows "light.a" (by decide) .temperature
  rw [started] at bright
  rw [stopped] at warm
  have unwanted : "1" ∉ after.state.wanted .temperature := fun mem => nomatch warm.1 mem
  exact ⟨started, bright.2 rfl, stopped, unwanted, others _ covers .brightness "2" (by decide)⟩

end DrivenHouse
end LightSync.Household
