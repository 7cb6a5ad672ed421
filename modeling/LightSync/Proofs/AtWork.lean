import LightSync.Proofs.Tracking

/-!
# A household at work

People and the home platform operate a household while its reconciler makes steps, by hand or in
loops, with any answers of the bridge. Whenever a step has loaded both managed groups, the household
pushes everything it wants, if its settings say so. The reconciler is asked for nothing else than
what the operations and these pushes ask for.

## Main definitions

- `Operation`, `Household.operate`: what is done to a household
- `Operation.wishes`: what it wants then
- `Household.pushes`: the changes that a push asks for
- `Household.Asks`: the changes that an operation may ask for
- `Household.takeIn`: the end of a step
- `Happening`, `DrivenHouse.proceed`: a household at work
- `DrivenHouse.loads`: the managed groups are loaded by an answer
-/

namespace LightSync.Household

open Bridge (GroupKind Answer)
open Reconciler (State Scene Plan Change Driver Outcome)

/-- What is done to a household: by people, by the home platform, and by timers that run out. -/
inductive Operation where
  | turnOn (entityId : String) (params : LightParams)
  | turnOff (entityId : String) (params : LightParams)
  | autoOn (call : ServiceCall LightParams)
  | dim (now : Nat) (call : ServiceCall DimParams)
  | brightnessChanged (value : Float)
  | temperatureChanged (value : Float)
  | nightModeChanged (enabled : Bool)
  | entityAdded (e : Entity)
  | entityRemoved (e : Entity)
  | pushDesired
  | expireTimer (attended : Bool) (entityId : String) (id : Nat)
  | cancelTimer (entityId : String)
  | cancelTimers
  /-- The reconciler is asked to run a loop. -/
  | runLoop (canRun : Bool)
  /-- The reconciler is asked to list lights and groups again. -/
  | reload (canRun : Bool)
  /-- The reconciler is asked to turn every light off. -/
  | allOff (canRun : Bool) (fade : Option Fade)

/-- What is wanted after an operation. -/
def Operation.wishes (op : Operation) (d : Desired) : Desired :=
  match op with
  | .brightnessChanged value =>
    { d with brightness := clampDesired (Decimal.clampTruncated 3 255 value) }
  | .temperatureChanged value =>
    { d with temperature := (ColorTemp.clamped (Decimal.clampTruncated 153 454 value)).mirek }
  | .nightModeChanged enabled => { d with nightMode := enabled }
  | _ => d

/-- Decisions that start no tracking ask for removals only. -/
theorem Decision.removes {d : Decision} (ends : ∀ kind, d.tracking kind ≠ .start)
    {lights : Option NameSet} {c : Change} (mem : c ∈ d.changes lights) :
    ∃ kind names, c = .removeLights kind names := by
  have removes (kind : GroupKind) (lights : NameSet)
      (mem : c ∈ (d.tracking kind).changes kind lights) :
      ∃ names, c = .removeLights kind names := by
    cases t : d.tracking kind with
    | start => exact absurd t (ends kind)
    | stop =>
      rw [t] at mem
      exact ⟨_, List.mem_singleton.1 mem⟩
    | keep =>
      rw [t] at mem
      cases mem
  cases lights with
  | none => cases mem
  | some lights =>
    rcases List.mem_append.1 mem with mem | mem
    · exact ⟨_, removes .brightness lights mem⟩
    · exact ⟨_, removes .temperature lights mem⟩

variable {σ : Type}

/-! ## Reports and timers -/

theorem becomes_brightnessChanged (h : Household σ) (value : Float)
    (day : h.desired.nightMode = false) :
    let desired := (Operation.brightnessChanged value).wishes h.desired
    { h with desired }.Becomes (h.brightnessChanged value) [.setBrightness desired.brightness] := by
  intro desired
  have told : h.brightnessChanged value =
      { h with desired }.change (.setBrightness desired.brightness) :=
    if_neg (Bool.eq_false_iff.1 day)
  rw [told]
  exact becomes_change ..

theorem becomes_temperatureChanged (h : Household σ) (value : Float)
    (day : h.desired.nightMode = false) :
    let desired := (Operation.temperatureChanged value).wishes h.desired
    { h with desired }.Becomes (h.temperatureChanged value)
      [.setTemperature desired.temperature] := by
  intro desired
  have told : h.temperatureChanged value =
      { h with desired }.change (.setTemperature desired.temperature) :=
    if_neg (Bool.eq_false_iff.1 day)
  rw [told]
  exact becomes_change ..

/-- In night mode the household keeps the value of a report to itself. -/
theorem brightnessChanged_of_night {h : Household σ} (night : h.desired.nightMode = true)
    (value : Float) : h.brightnessChanged value =
      { h with desired := (Operation.brightnessChanged value).wishes h.desired } := if_pos night

theorem temperatureChanged_of_night {h : Household σ} (night : h.desired.nightMode = true)
    (value : Float) : h.temperatureChanged value =
      { h with desired := (Operation.temperatureChanged value).wishes h.desired } := if_pos night

theorem becomes_cancelTimers (h : Household σ) : h.Becomes h.cancelTimers.1 [] :=
  have noted := h.becomes_noteAll h.timers.cancelAllLines
  ⟨noted.settings, noted.desired, noted.state⟩

theorem becomes_nightModeChanged (h : Household σ) (enabled : Bool) :
    { h with desired := (Operation.nightModeChanged enabled).wishes h.desired }.Becomes
      (h.nightModeChanged enabled) [] := by
  let night := { h with desired := (Operation.nightModeChanged enabled).wishes h.desired }
  have told : h.nightModeChanged enabled =
      if enabled && h.settings.cancelTimersOnNightMode then
        night.cancelTimers.1.note (.info s!"Night mode on; cancelled {night.cancelTimers.2} timers")
      else night := rfl
  rw [told]
  split
  · exact night.becomes_cancelTimers.quietly (becomes_note ..)
  · exact .refl night

theorem becomes_startTimer (h : Household σ) (now : Nat) (entityId : String) (delay : Fade)
    (fade : Option Fade) : h.Becomes (h.startTimer now entityId delay fade) [] :=
  have noted := h.becomes_noteAll
    (h.timers.startLines entityId (Decimal.writeTenths (waitSeconds delay.nanoseconds)))
  ⟨noted.settings, noted.desired, noted.state⟩

theorem becomes_startTimer? (h : Household σ) (now : Nat) (entityId : String)
    (delay fade : Option Fade) :
    h.Becomes (match delay with
      | some delay => h.startTimer now entityId delay fade
      | none => h) [] := by
  cases delay with
  | some delay => exact h.becomes_startTimer ..
  | none => exact .refl h

/-! ## What operations ask for -/

variable [Host σ]

def operate (h : Household σ) : Operation → Household σ
  | .turnOn entityId params => (h.turnOn entityId params).1
  | .turnOff entityId params => (h.turnOff entityId params).1
  | .autoOn call => (h.autoOn call).1
  | .dim now call => (h.dim now call).1
  | .brightnessChanged value => h.brightnessChanged value
  | .temperatureChanged value => h.temperatureChanged value
  | .nightModeChanged enabled => h.nightModeChanged enabled
  | .entityAdded e => h.entityAdded e
  | .entityRemoved e => h.entityRemoved e
  | .pushDesired => h.pushDesired
  | .expireTimer attended entityId id => h.expireTimer attended entityId id
  | .cancelTimer entityId => (h.cancelTimer entityId).1
  | .cancelTimers => h.cancelTimers.1
  | .runLoop canRun => { h with sync := h.sync.change canRun .runLoop }
  | .reload canRun => { h with sync := h.sync.change canRun .requestReload }
  | .allOff canRun fade => { h with sync := h.sync.change canRun (.requestAllOff fade) }

/-- The changes that a push of everything desired asks for. -/
def pushes (h : Household σ) : List Change := [
  .setLights .brightness (h.followers h.followsBrightness),
  .setLights .temperature (h.followers h.followsTemperature),
  .setBrightness h.desired.brightness,
  .setTemperature h.desired.temperature]

/-- The changes that an operation may ask for. -/
inductive Asks (h : Household σ) : Operation → Change → Prop where
  | turnOn {entityId : String} {params : LightParams} {c : Change}
    (asked : c ∈ h.asked (.turnOn entityId params)) : Asks h (.turnOn entityId params) c
  | turnOff (entityId : String) (params : LightParams) (kind : GroupKind) (names : List String) :
    Asks h (.turnOff entityId params) (.removeLights kind names)
  /-- Each entity is turned on as the household is after those before it were. -/
  | autoOn {call : ServiceCall LightParams} {done rest : List String} {entityId : String}
    {between : Household σ} {c : Change} (ids : call.entityIds = done ++ entityId :: rest)
    (before : h.turnOnAll call.params done = (between, .ok ()))
    (asked : c ∈ between.asked (.turnOn entityId call.params)) : Asks h (.autoOn call) c
  | dim (now : Nat) (call : ServiceCall DimParams) (kind : GroupKind) (names : List String) :
    Asks h (.dim now call) (.removeLights kind names)
  | brightnessChanged (value : Float) (day : h.desired.nightMode = false) :
    Asks h (.brightnessChanged value)
      (.setBrightness ((Operation.brightnessChanged value).wishes h.desired).brightness)
  | temperatureChanged (value : Float) (day : h.desired.nightMode = false) :
    Asks h (.temperatureChanged value)
      (.setTemperature ((Operation.temperatureChanged value).wishes h.desired).temperature)
  | entityAdded {e : Entity} {uniqueId number : String} (kind : GroupKind)
    (trackable : h.isTrackable e = true) (hardware : e.uniqueId = some uniqueId)
    (light : h.sync.state.numberOfId? uniqueId = some number) :
    Asks h (.entityAdded e) (.addLights kind (NameSet.singleton number).toList)
  | entityRemoved (e : Entity) (kind : GroupKind) (names : List String) :
    Asks h (.entityRemoved e) (.removeLights kind names)
  | pushDesired {c : Change} (pushed : c ∈ h.pushes) : Asks h .pushDesired c
  | expireTimer (attended : Bool) (entityId : String) (id : Nat) (kind : GroupKind)
    (names : List String) : Asks h (.expireTimer attended entityId id) (.removeLights kind names)
  | runLoop (canRun : Bool) : Asks h (.runLoop canRun) .runLoop
  | reload (canRun : Bool) : Asks h (.reload canRun) .requestReload
  | allOff (canRun : Bool) (fade : Option Fade) :
    Asks h (.allOff canRun fade) (.requestAllOff fade)

theorem becomes_pushDesired (h : Household σ) : h.Becomes h.pushDesired h.pushes :=
  ⟨rfl, rfl, Reconciler.unclaimed_changeAll ..⟩

theorem becomes_turnOnAll (h : Household σ) (params : LightParams) (ids : List String) :
    ∃ cs, h.Becomes (h.turnOnAll params ids).1 cs ∧ ∀ c ∈ cs, ∃ done entityId rest between,
      ids = done ++ entityId :: rest ∧ h.turnOnAll params done = (between, .ok ()) ∧
        c ∈ between.asked (.turnOn entityId params) := by
  induction ids generalizing h with
  | nil => exact ⟨[], .refl h, List.forall_mem_nil _⟩
  | cons entityId rest ih =>
    have first := h.becomes_turnOn entityId params
    have here (c : Change) (mem : c ∈ h.asked (.turnOn entityId params)) :
        ∃ done id later between, entityId :: rest = done ++ id :: later ∧
          h.turnOnAll params done = (between, .ok ()) ∧ c ∈ between.asked (.turnOn id params) :=
      ⟨[], entityId, rest, h, rfl, rfl, mem⟩
    rcases turned : h.turnOn entityId params with ⟨h', failure | ⟨⟩⟩
    · have all : h.turnOnAll params (entityId :: rest) = (h', .error failure) := by
        simp only [turnOnAll, turned]
      rw [turned] at first
      rw [all]
      exact ⟨_, first, here⟩
    · have all (ids : List String) :
          h.turnOnAll params (entityId :: ids) = h'.turnOnAll params ids := by
        simp only [turnOnAll, turned]
      rw [turned] at first
      rw [all]
      obtain ⟨cs, becomes, origin⟩ := ih h'
      refine ⟨_, first.trans becomes, fun c mem => ?_⟩
      rcases List.mem_append.1 mem with mem | mem
      · exact here c mem
      · obtain ⟨done, id, later, between, ids, before, asked⟩ := origin c mem
        exact ⟨entityId :: done, id, later, between, congrArg _ ids, (all done).trans before, asked⟩

/-- Dimming gives both values to lights that are on, which ends their tracking. -/
theorem becomes_dimAll (h : Household σ) (now : Nat) (brightness : UInt8) (params : DimParams)
    (temperature : UInt16) (ids : List String) :
    ∃ cs, h.Becomes (h.dimAll now brightness params temperature ids).1 cs ∧
      ∀ c ∈ cs, ∃ kind names, c = .removeLights kind names := by
  induction ids generalizing h with
  | nil => exact ⟨[], .refl h, List.forall_mem_nil _⟩
  | cons entityId rest ih =>
    unfold dimAll
    cases known : Host.entity? h.host entityId with
    | none =>
      obtain ⟨cs, becomes, removes⟩ := ih (h.note (.warn s!"Unknown entity {entityId}"))
      exact ⟨cs, (h.becomes_note _).trans becomes, removes⟩
    | some e =>
      by_cases on : e.isOn = true
      · simp only [if_pos on]
        let light : LightParams :=
          ⟨some brightness, some (params.colorTemp.getD temperature), params.dimTransition⟩
        have first := h.becomes_turnOn entityId light
        have removes (c : Change) (mem : c ∈ h.asked (.turnOn entityId light)) :
            ∃ kind names, c = .removeLights kind names := by
          simp only [asked, HostCall.entityId, known, on] at mem
          split at mem
          · exact Decision.removes (fun kind => by cases kind <;> rintro ⟨⟩) mem
          · cases mem
        rcases turned : h.turnOn entityId light with ⟨h', failure | ⟨⟩⟩
        · rw [turned] at first
          exact ⟨_, first, removes⟩
        · rw [turned] at first
          have started := h'.becomes_startTimer? now entityId params.offAfter params.offTransition
          obtain ⟨cs, becomes, later⟩ := ih _
          refine ⟨_, (first.quietly started).trans becomes, fun c mem => ?_⟩
          rcases List.mem_append.1 mem with mem | mem
          · exact removes c mem
          · exact later c mem
      · simp only [if_neg on]
        exact ih h

theorem becomes_entityAdded (h : Household σ) (e : Entity) :
    ∃ cs, h.Becomes (h.entityAdded e) cs ∧ ∀ c ∈ cs, h.Asks (.entityAdded e) c := by
  unfold entityAdded
  split
  · next uniqueId trackable hardware =>
    cases found : h.sync.state.numberOfId? uniqueId with
    | none =>
      simp only [Reconciler.lightsOfId, found]
      exact ⟨[], ⟨rfl, rfl, rfl⟩, List.forall_mem_nil _⟩
    | some number =>
      simp only [Reconciler.lightsOfId, found]
      let added (kind : GroupKind) : Change := .addLights kind (NameSet.singleton number).toList
      have asks (kind : GroupKind) : h.Asks (.entityAdded e) (added kind) :=
        .entityAdded kind trackable hardware found
      have maybe (h' : Household σ) (kind : GroupKind) (follows : Bool) :
          h'.Becomes (if follows then h'.change (added kind) else h')
            (if follows then [added kind] else []) := by
        split
        · exact h'.becomes_change _
        · exact .refl h'
      refine ⟨_, (maybe h .brightness (h.followsBrightness e)).trans
        (maybe _ .temperature (h.followsTemperature e)), fun c mem => ?_⟩
      rcases List.mem_append.1 mem with mem | mem
      · split at mem
        · exact List.mem_singleton.1 mem ▸ asks .brightness
        · cases mem
      · split at mem
        · exact List.mem_singleton.1 mem ▸ asks .temperature
        · cases mem
  · exact ⟨[], .refl h, List.forall_mem_nil _⟩

theorem becomes_entityRemoved (h : Household σ) (e : Entity) :
    ∃ cs, h.Becomes (h.entityRemoved e) cs ∧ ∀ c ∈ cs, h.Asks (.entityRemoved e) c := by
  have looked := h.becomes_lightsOf e
  unfold entityRemoved
  rcases lights : h.lightsOf e with ⟨h', none | lights⟩
  · rw [lights] at looked
    exact ⟨[], looked, List.forall_mem_nil _⟩
  · rw [lights] at looked
    refine ⟨_, ((looked.quietly (becomes_note ..)).trans (becomes_change ..)).trans
      (becomes_change ..), fun c mem => ?_⟩
    simp only [List.nil_append, List.cons_append, List.mem_cons, List.not_mem_nil, or_false] at mem
    rcases mem with rfl | rfl
    · exact .entityRemoved e _ _
    · exact .entityRemoved e _ _

theorem removes_of_turnOff (h : Household σ) {entityId : String} {params : LightParams} {c : Change}
    (mem : c ∈ h.asked (.turnOff entityId params)) :
    ∃ kind names, c = .removeLights kind names := by
  simp only [asked, HostCall.entityId] at mem
  split at mem
  · cases mem
  · exact Decision.removes (fun kind => by cases kind <;> rintro ⟨⟩) mem

theorem becomes_expireTimer (h : Household σ) (attended : Bool) (entityId : String) (id : Nat) :
    ∃ cs, h.Becomes (h.expireTimer attended entityId id) cs ∧
      ∀ c ∈ cs, h.Asks (.expireTimer attended entityId id) c := by
  unfold expireTimer
  split
  · exact ⟨[], .refl h, List.forall_mem_nil _⟩
  · next timers fade _ =>
    have fired : h.Becomes ({ h with timers }.note (OffTimers.fireLine entityId)) [] :=
      ⟨rfl, rfl, rfl⟩
    dsimp only
    generalize { h with timers }.note (OffTimers.fireLine entityId) = h₀ at fired ⊢
    have turned := fired.trans
      (h₀.becomes_turnOff entityId { LightParams.none with transition := fade })
    have asks (c : Change) (mem : c ∈ [] ++ h₀.asked
        (.turnOff entityId { LightParams.none with transition := fade })) :
        h.Asks (.expireTimer attended entityId id) c := by
      obtain ⟨kind, names, rfl⟩ := h₀.removes_of_turnOff mem
      exact .expireTimer attended entityId id kind names
    split
    · split
      · next h' done =>
        rw [done] at turned
        exact ⟨_, turned, asks⟩
      · next h' failure failed =>
        rw [failed] at turned
        exact ⟨_, turned.quietly (becomes_note ..), asks⟩
    · exact ⟨[], fired, List.forall_mem_nil _⟩

/-- An operation asks for nothing else than what it may ask for. -/
theorem becomes_operate (h : Household σ) (op : Operation) :
    ∃ cs, { h with desired := op.wishes h.desired }.Becomes (h.operate op) cs ∧
      ∀ c ∈ cs, h.Asks op c := by
  have removal {op : Operation} {cs : List Change}
      (removes : ∀ c ∈ cs, ∃ kind names, c = .removeLights kind names)
      (may : ∀ kind names, h.Asks op (.removeLights kind names)) (c : Change) (mem : c ∈ cs) :
      h.Asks op c := by
    obtain ⟨kind, names, rfl⟩ := removes c mem
    exact may kind names
  cases op with
  | turnOn entityId params => exact ⟨_, h.becomes_turnOn entityId params, fun _ mem => .turnOn mem⟩
  | turnOff entityId params =>
    exact ⟨_, h.becomes_turnOff entityId params,
      removal (fun _ => h.removes_of_turnOff) (.turnOff entityId params)⟩
  | autoOn call =>
    obtain ⟨cs, becomes, origin⟩ := h.becomes_turnOnAll call.params call.entityIds
    refine ⟨cs, becomes, fun c mem => ?_⟩
    obtain ⟨done, entityId, rest, between, ids, before, asked⟩ := origin c mem
    exact .autoOn ids before asked
  | dim now call =>
    obtain ⟨cs, becomes, removes⟩ := h.becomes_dimAll now
      (clampDesired (h.desired.brightness.toNat / 4 : Nat)) call.params h.desired.temperature
      call.entityIds
    exact ⟨cs, becomes, removal removes (.dim now call)⟩
  | brightnessChanged value =>
    cases night : h.desired.nightMode with
    | true =>
      refine ⟨[], ?_, List.forall_mem_nil _⟩
      rw [operate, brightnessChanged_of_night night]
      exact .refl _
    | false =>
      refine ⟨_, h.becomes_brightnessChanged value night, fun c mem => ?_⟩
      exact List.mem_singleton.1 mem ▸ .brightnessChanged value night
  | temperatureChanged value =>
    cases night : h.desired.nightMode with
    | true =>
      refine ⟨[], ?_, List.forall_mem_nil _⟩
      rw [operate, temperatureChanged_of_night night]
      exact .refl _
    | false =>
      refine ⟨_, h.becomes_temperatureChanged value night, fun c mem => ?_⟩
      exact List.mem_singleton.1 mem ▸ .temperatureChanged value night
  | nightModeChanged enabled =>
    exact ⟨[], h.becomes_nightModeChanged enabled, List.forall_mem_nil _⟩
  | entityAdded e => exact h.becomes_entityAdded e
  | entityRemoved e => exact h.becomes_entityRemoved e
  | pushDesired => exact ⟨_, h.becomes_pushDesired, fun _ => .pushDesired⟩
  | expireTimer attended entityId id => exact h.becomes_expireTimer attended entityId id
  | cancelTimer entityId => exact ⟨[], h.becomes_cancelTimer entityId, List.forall_mem_nil _⟩
  | cancelTimers => exact ⟨[], h.becomes_cancelTimers, List.forall_mem_nil _⟩
  | runLoop canRun =>
    refine ⟨[.runLoop], ⟨rfl, rfl, Reconciler.unclaimed_change ..⟩, fun c mem => ?_⟩
    exact List.mem_singleton.1 mem ▸ .runLoop canRun
  | reload canRun =>
    refine ⟨[.requestReload], ⟨rfl, rfl, Reconciler.unclaimed_change ..⟩, fun c mem => ?_⟩
    exact List.mem_singleton.1 mem ▸ .reload canRun
  | allOff canRun fade =>
    refine ⟨[.requestAllOff fade], ⟨rfl, rfl, Reconciler.unclaimed_change ..⟩, fun c mem => ?_⟩
    exact List.mem_singleton.1 mem ▸ .allOff canRun fade

/-! ## The end of a step -/

/-- Takes in the answer to the request of a step. If the managed groups were loaded, everything
desired is pushed. -/
def takeIn (h : Household σ) (plan : Plan) (answer : Answer) : Household σ × Outcome :=
  let (sync, outcome, loaded) := (h.sync.receive plan.request answer).finish plan answer
  let h := { h with sync }
  (if loaded && h.settings.repushOnReady then h.pushDesired else h, outcome)

/-- The changes that are asked for when the managed groups were loaded. -/
def heard (h : Household σ) : List Change := if h.settings.repushOnReady then h.pushes else []

/-- A push does not depend on the groups. -/
theorem pushes_withSync {h : Household σ} {sync : Reconciler}
    (lights : sync.state.lights = h.sync.state.lights) : { h with sync }.pushes = h.pushes := by
  have number (uniqueId : String) :
      sync.state.numberOfId? uniqueId = h.sync.state.numberOfId? uniqueId := by
    simp only [State.numberOfId?, State.light?, State.allLights, lights]
  have same (follows : Entity → Bool) :
      { h with sync }.followers follows = h.followers follows := by
    simp only [followers, isTrackable, funext number]
    rfl
  simp only [pushes, same]
  rfl

/-- What is reported apart, the end of a step is that of the reconciler, where the household hears
that the managed groups were loaded. -/
theorem takeIn_eq_conclude (h : Household σ) (plan : Plan) (answer : Answer) :
    let taken := h.sync.conclude plan answer true h.heard
    let after := h.takeIn plan answer
    after.1.sync.silent = taken.1.silent ∧ after.2 = taken.2 ∧
      after.1.settings = h.settings ∧ after.1.desired = h.desired := by
  cases read : plan.read answer with
  | error failure =>
    obtain ⟨r, finished⟩ : ∃ r, (h.sync.receive plan.request answer).finish plan answer =
        (r, .failed plan.step, false) := ⟨_, by rw [Reconciler.finish, read]⟩
    have taken : h.takeIn plan answer = ({ h with sync := r }, .failed plan.step) := by
      unfold takeIn
      rw [finished]
      rfl
    have concluded : h.sync.conclude plan answer true h.heard = (r, .failed plan.step) := by
      unfold Reconciler.conclude
      rw [finished]
      rfl
    rw [taken, concluded]
    exact ⟨rfl, rfl, rfl, rfl⟩
  | ok u =>
    obtain ⟨log, journal, finished⟩ := Reconciler.finish_of_ok read h.sync
    let r := { h.sync with state := h.sync.state.update h.sync.settings u, log, journal }
    cases loaded : u.loads && r.state.isReady with
    | false =>
      have taken : h.takeIn plan answer = ({ h with sync := r }, .completed plan.step) := by
        unfold takeIn
        rw [finished, loaded]
        rfl
      have concluded : h.sync.conclude plan answer true h.heard = (r, .completed plan.step) := by
        unfold Reconciler.conclude
        rw [finished, loaded]
        rfl
      rw [taken, concluded]
      exact ⟨rfl, rfl, rfl, rfl⟩
    | true =>
      have concluded : h.sync.conclude plan answer true h.heard =
          (r.changeAll true h.heard, .completed plan.step) := by
        unfold Reconciler.conclude
        rw [finished, loaded]
        rfl
      have taken : h.takeIn plan answer = (if h.settings.repushOnReady then
          { h with sync := r }.pushDesired else { h with sync := r }, .completed plan.step) := by
        unfold takeIn
        rw [finished, loaded]
        rfl
      rw [taken, concluded, heard]
      split
      · have lights : r.state.lights = h.sync.state.lights := by
          cases u with
          | groups groups => rfl
          | allOff | lights | membership | values => cases loaded
        rw [← pushes_withSync lights]
        exact ⟨Reconciler.silent_changeAll_congr (Reconciler.silent_note ..) true _, rfl, rfl, rfl⟩
      · exact ⟨rfl, rfl, rfl, rfl⟩

/-! ## Households at work -/

/-- Something that happens while a household is at work. -/
inductive Happening (σ : Type) where
  | operation (op : Operation)
  /-- The home platform has come to know something else. -/
  | host (host : σ)
  /-- A driver that waits for no answer goes on. -/
  | go (d : Driver)
  /-- The answer to a driver's request arrives. -/
  | answer (d : Driver) (answer : Answer)

namespace DrivenHouse

/-- A household with a reconciler that knows nothing of its bridge, before anybody drives it. -/
def new (settings : HouseSettings) (sync : SyncSettings) (wording : Wording) (host : σ) :
    DrivenHouse σ :=
  ⟨.new settings host (.new sync wording), fun _ => none⟩

def proceed (h : DrivenHouse σ) : Happening σ → DrivenHouse σ
  | .operation op => { h with house := h.house.operate op }
  | .host host => { h with house := { h.house with host } }
  | .go d =>
    let s := h.scene.next (.go d)
    ⟨{ h.house with sync := s.sync }, s.hands⟩
  | .answer d answer =>
    match h.scene.underway d with
    | none => h
    | some plan =>
      let taken := h.house.takeIn plan answer
      match d with
      | .hand n => ⟨taken.1, fun m => if m = n then none else h.hands m⟩
      | .loop id =>
        { h with house := { taken.1 with sync := (taken.1.sync.advanceLoop id taken.2).1 } }

abbrev proceedAll (h : DrivenHouse σ) (happenings : List (Happening σ)) : DrivenHouse σ :=
  Run.after proceed h happenings

/-- The wishes after a happening. -/
def wishes (h : DrivenHouse σ) : Happening σ → Desired
  | .operation op => op.wishes h.house.desired
  | _ => h.house.desired

theorem house_proceed (h : DrivenHouse σ) (e : Happening σ) :
    (h.proceed e).house.settings = h.house.settings ∧ (h.proceed e).house.desired = h.wishes e := by
  cases e with
  | operation op =>
    obtain ⟨cs, becomes, -⟩ := h.house.becomes_operate op
    exact ⟨becomes.settings, becomes.desired⟩
  | host host => exact ⟨rfl, rfl⟩
  | go d => exact ⟨rfl, rfl⟩
  | answer d answer =>
    cases waiting : h.scene.underway d with
    | none =>
      simp only [proceed, waiting, true_and]
      rfl
    | some plan =>
      simp only [proceed, waiting]
      obtain ⟨-, -, settings, desired⟩ := h.house.takeIn_eq_conclude plan answer
      cases d <;> exact ⟨settings, desired⟩

/-- An answer that arrives does to the state what it does to the reconciler alone, where the
household hears that the managed groups were loaded. -/
theorem unclaimed_proceed_answer (h : DrivenHouse σ) (d : Driver) (answer : Answer) :
    (h.proceed (.answer d answer)).state.unclaimed =
      (h.scene.settled (.answer d answer true h.house.heard)).unclaimed := by
  cases waiting : h.scene.underway d with
  | none =>
    simp only [proceed, Scene.settled, waiting]
    rfl
  | some plan =>
    simp only [proceed, Scene.settled, waiting]
    obtain ⟨silent, outcome, -, -⟩ := h.house.takeIn_eq_conclude plan answer
    have concluded := Reconciler.unclaimed_conclude h.house.sync plan answer true h.house.heard
    rw [← Reconciler.state_of_silent silent] at concluded
    cases d with
    | hand n => exact concluded
    | loop id =>
      have still := (Reconciler.awaited_conclude h.house.sync plan answer true h.house.heard
        id).trans waiting
      rw [← Reconciler.awaited_of_silent silent] at still
      obtain ⟨l, found, -⟩ := Reconciler.loop?_of_awaited still
      have made := Reconciler.conclude_outcome h.house.sync plan answer true h.house.heard
      rw [← outcome] at made
      exact (Reconciler.unclaimed_advanceLoop found made).trans concluded

/-- Are the managed groups loaded by an answer? -/
def loads (h : DrivenHouse σ) (d : Driver) (answer : Answer) : Bool :=
  match h.scene.underway d with
  | none => false
  | some plan =>
    match plan.read answer with
    | .error _ => false
    | .ok u => u.loads && (h.scene.state.update h.scene.sync.settings u).isReady

/-- An answer makes an update that makes no group known, or none. If it loads the managed groups,
the household hears of it afterwards. -/
theorem answer_cases (h : DrivenHouse σ) (d : Driver) (answer : Answer) :
    let after := (h.proceed (.answer d answer)).state
    let update := h.state.update h.house.sync.settings
    (h.loads d answer = true ∧ ∃ u, (update u).isReady = true ∧
      after.unclaimed = ((update u).changes h.house.heard).unclaimed) ∨
    (h.loads d answer = false ∧ (after.unclaimed = h.state.unclaimed ∨
      ∃ u, (u.loads && (update u).isReady) = false ∧
        after.unclaimed = (update u).unclaimed)) := by
  intro after update
  have settled := h.unclaimed_proceed_answer d answer
  cases waiting : h.scene.underway d with
  | none =>
    simp only [Scene.settled, waiting] at settled
    exact .inr ⟨by simp only [loads, waiting], .inl settled⟩
  | some plan =>
    cases read : plan.read answer with
    | error failure =>
      simp only [Scene.settled, waiting, State.take, read] at settled
      exact .inr ⟨by simp only [loads, waiting, read], .inl settled⟩
    | ok u =>
      have loaded : h.loads d answer = (u.loads && (update u).isReady) := by
        simp only [loads, waiting, read]
        rfl
      simp only [Scene.settled, waiting, State.take, read] at settled
      rw [loaded]
      cases known : u.loads && (update u).isReady with
      | true =>
        exact .inl ⟨rfl, u, (Bool.and_eq_true_iff.1 known).2,
          settled.trans (congrArg State.unclaimed (if_pos known))⟩
      | false =>
        exact .inr ⟨rfl, .inr ⟨u, known,
          settled.trans (congrArg State.unclaimed (if_neg (Bool.eq_false_iff.1 known)))⟩⟩

end DrivenHouse
end LightSync.Household
