import LightSync.Proofs.AtWork

/-!
# Desired values that reach the reconciler

A household passes a desired value on when the value is reported outside night mode, and whenever
everything desired is pushed. What is reported in night mode it keeps to itself until then. So the
reconciler, while it knows both managed groups, wants the value that it was told last, and this is
the one that the household wants unless another one was reported in night mode since.

## Main definitions

- `State.value?`: the value wanted of a managed group
- `DrivenHouse.tells`: a desired value is passed on in a happening
- `Notice`, `DrivenHouse.notice`: what the reconciler was told last, and whether it is out of date
- `InTouch`: the reconciler wants what it was told last
-/

namespace LightSync

open Bridge (GroupKind)

namespace Cell

theorem value_set {α : Type} [DecidableEq α] [Drift α] (c : Cell α) (v : α) :
    (c.set v).1.value = some v := by
  by_cases held : c.value = some v
  · rw [set_of_eq held]
    exact held
  · rw [set_of_ne held]

end Cell

namespace Reconciler

open Bridge

/-! ## Managed values -/

namespace Dial

variable {α : Type} [DecidableEq α] [Drift α] (d : Dial α) {s : State} (settings : SyncSettings)

/-- The value that is wanted, if the group is known. -/
def value? (s : State) : Option α := (d.cell? s).bind (·.value)

/-- A move keeps the value, unless it wants one or lists the groups. -/
theorem value?_move {m : Move} (want : ∀ v, d.touch m ≠ .want v) (listing : d.touch m ≠ .forget) :
    d.value? (s.move settings m) = d.value? s := by
  have made : (d.touch m).Makes d.zero (d.cell? s) (d.cell? (s.move settings m)) :=
    d.makes_touch s m
  unfold value?
  cases touch : d.touch m with
  | want v => exact absurd touch (want v)
  | forget => exact absurd touch listing
  | keep =>
    rw [touch] at made
    rw [made]
  | confirm v =>
    rw [touch] at made
    rw [made]
    cases d.cell? s with
    | none => rfl
    | some c => exact Cell.value_confirm (some v) c

theorem value?_change {c : Change} {v : α} (wants : d.wanted c = some v)
    (known : (s.group? d.kind).isSome = true) : d.value? (s.change c).1 = some v := by
  have made : (d.touch (.change c)).Makes d.zero (d.cell? s) (d.cell? (s.change c).1) :=
    @makes_touch α _ _ d .default s (.change c)
  rw [touch, wants] at made
  obtain ⟨g, known⟩ := Option.isSome_iff_exists.1 known
  have cell : d.cell? s = some (d.cell g) := by rw [cell?, State.viewOf, known, Option.map_some]
  rw [value?, made, cell]
  exact Cell.value_set ..

end Dial

/-- The value that a change asks for, moved into its range. -/
def Change.value? (c : Change) : GroupKind → Option Nat
  | .brightness => (Dial.brightness.wanted c).map (·.toNat)
  | .temperature => (Dial.colorTemp.wanted c).map (·.toNat)

namespace State

variable {s t : State} {settings : SyncSettings} {kind : GroupKind}

/-- The value wanted of a managed group, if it is known. -/
def value? (s : State) : GroupKind → Option Nat
  | .brightness => (Dial.brightness.value? s).map (·.toNat)
  | .temperature => (Dial.colorTemp.value? s).map (·.toNat)

theorem value?_congr (same : s.unclaimed = t.unclaimed) (kind : GroupKind) :
    s.value? kind = t.value? kind := by
  cases kind with
  | brightness => rw [value?, Dial.value?, Dial.cell?, viewOf_congr same]; rfl
  | temperature => rw [value?, Dial.value?, Dial.cell?, viewOf_congr same]; rfl

theorem isReady_of_isSome (same : ∀ kind, (t.group? kind).isSome = (s.group? kind).isSome) :
    t.isReady = s.isReady := by
  rw [isReady, same, same, isReady]

theorem isReady_change (s : State) (c : Change) : (s.change c).1.isReady = s.isReady := by
  refine isReady_of_isSome fun kind => ?_
  have related := (s.rewanted_change c).group kind
  generalize s.group? kind = before, (s.change c).1.group? kind = after at related
  cases related with
  | none => rfl
  | some => rfl

theorem isReady_changes (s : State) (cs : List Change) : (s.changes cs).isReady = s.isReady := by
  induction cs generalizing s with
  | nil => rfl
  | cons c rest ih => exact (ih _).trans (s.isReady_change c)

theorem isReady_update {u : Update} (known : ∀ groups, u ≠ .groups groups) :
    (s.update settings u).isReady = s.isReady := by
  refine isReady_of_isSome fun kind => ?_
  cases u with
  | allOff => rw [group?_update_allOff, Option.isSome_map]
  | lights lights => rw [group?_update_lights]
  | groups groups => exact absurd rfl (known groups)
  | membership => rw [group?_update_membership, Option.isSome_map]
  | values => rw [group?_update_values, Option.isSome_map]

/-- A change that asks for no value of that kind leaves it as it is. -/
theorem value?_change_of_none {c : Change} (other : c.value? kind = none) (s : State) :
    (s.change c).1.value? kind = s.value? kind := by
  cases kind with
  | brightness =>
    have none := Option.map_eq_none_iff.1 other
    have keep : Dial.brightness.touch (.change c) = .keep := by rw [Dial.touch, none]; rfl
    exact congrArg (Option.map _) (Dial.brightness.value?_move .default (m := .change c)
      (by simp [keep]) (by simp [keep]))
  | temperature =>
    have none := Option.map_eq_none_iff.1 other
    have keep : Dial.colorTemp.touch (.change c) = .keep := by rw [Dial.touch, none]; rfl
    exact congrArg (Option.map _) (Dial.colorTemp.value?_move .default (m := .change c)
      (by simp [keep]) (by simp [keep]))

theorem value?_changes_of_none {cs : List Change} (other : ∀ c ∈ cs, c.value? kind = none)
    (s : State) : (s.changes cs).value? kind = s.value? kind := by
  induction cs generalizing s with
  | nil => rfl
  | cons c rest ih =>
    rw [changes_cons, ih fun c' mem => other c' (List.mem_cons_of_mem _ mem),
      value?_change_of_none (other c (List.mem_cons_self ..))]

/-- A change that asks for a value makes a known group want it. -/
theorem value?_change_of_some {c : Change} {v : Nat} (asks : c.value? kind = some v)
    (ready : s.isReady = true) : (s.change c).1.value? kind = some v := by
  rw [isReady, Bool.and_eq_true] at ready
  cases kind with
  | brightness =>
    obtain ⟨b, wants, rfl⟩ := Option.map_eq_some_iff.1 asks
    rw [value?, Dial.brightness.value?_change wants ready.1, Option.map_some]
  | temperature =>
    obtain ⟨b, wants, rfl⟩ := Option.map_eq_some_iff.1 asks
    rw [value?, Dial.colorTemp.value?_change wants ready.2, Option.map_some]

/-- Answers of the bridge keep the values, but for listings of the groups. -/
theorem value?_update {u : Update} (known : ∀ groups, u ≠ .groups groups) :
    (s.update settings u).value? kind = s.value? kind := by
  have quiet {α : Type} [DecidableEq α] [Drift α] (d : Dial α) :
      (∀ v, d.touch (.update u) ≠ .want v) ∧ d.touch (.update u) ≠ .forget := by
    cases u with
    | groups groups => exact absurd rfl (known groups)
    | values bri ct =>
      simp only [Dial.touch]
      cases d.confirmed bri ct <;> simp
    | allOff | lights | membership => simp [Dial.touch]
  cases kind with
  | brightness =>
    exact congrArg (Option.map _)
      (Dial.brightness.value?_move settings (m := .update u) (quiet _).1 (quiet _).2)
  | temperature =>
    exact congrArg (Option.map _)
      (Dial.colorTemp.value?_move settings (m := .update u) (quiet _).1 (quiet _).2)

end State
end Reconciler

namespace Household

open Bridge (Answer)
open Reconciler (State Scene Change Driver)

/-! ## Desired values -/

namespace Desired

def value (d : Desired) : GroupKind → Nat
  | .brightness => d.brightness.toNat
  | .temperature => d.temperature.toNat

/-- The desired color temperature is one of the valid range. -/
def Valid (d : Desired) : Prop := 153 ≤ d.temperature.toNat ∧ d.temperature.toNat ≤ 454

theorem valid_initial (settings : HouseSettings) : (initial settings).Valid :=
  ColorTemp.clamped_mem _

theorem Valid.wishes {d : Desired} (h : d.Valid) (op : Operation) : (op.wishes d).Valid := by
  cases op with
  | temperatureChanged value => exact ColorTemp.clamped_mem _
  | _ => exact h

end Desired

/-- A desired value as the bridge takes it: its range of brightness is narrower. -/
def onBridge : GroupKind → Nat → Nat
  | .brightness, value => (Brightness.clamped value).value.toNat
  | .temperature, value => value

/-- Is a desired value reported by an operation? -/
def Operation.reports (kind : GroupKind) : Operation → Bool
  | .brightnessChanged _ => kind = .brightness
  | .temperatureChanged _ => kind = .temperature
  | _ => false

theorem Operation.value_wishes {op : Operation} {kind : GroupKind} (other : op.reports kind = false)
    (d : Desired) : (op.wishes d).value kind = d.value kind := by
  cases op with
  | brightnessChanged value =>
    cases kind with
    | brightness => cases other
    | temperature => rfl
  | temperatureChanged value =>
    cases kind with
    | brightness => rfl
    | temperature => cases other
  | _ => cases kind <;> rfl

variable {σ : Type}

def Happening.reports (kind : GroupKind) : Happening σ → Bool
  | .operation op => op.reports kind
  | _ => false

/-- A desired value that is not reported stays as it is. -/
theorem DrivenHouse.value_wishes {h : DrivenHouse σ} {kind : GroupKind} {e : Happening σ}
    (other : e.reports kind = false) : (h.wishes e).value kind = h.house.desired.value kind := by
  cases e with
  | operation op => exact op.value_wishes other _
  | host | go | answer => rfl

/-! ## Passing desired values on -/

theorem value?_setBrightness (d : Desired) :
    (Change.setBrightness d.brightness).value? .brightness =
      some (onBridge .brightness (d.value .brightness)) := rfl

theorem value?_setTemperature {d : Desired} (valid : d.Valid) :
    (Change.setTemperature d.temperature).value? .temperature =
      some (onBridge .temperature (d.value .temperature)) := by
  have same := ColorTemp.clamped_of_mem valid
  exact congrArg (fun t : UInt16 => some t.toNat) same

variable [Host σ]

/-- A push makes the reconciler want what the household wants, if the managed groups are known. -/
theorem value?_pushes {h : Household σ} (valid : h.desired.Valid) {s : State}
    (ready : s.isReady = true) (kind : GroupKind) :
    (s.changes h.pushes).value? kind = some (onBridge kind (h.desired.value kind)) := by
  let members := s.changes [.setLights .brightness (h.followers h.followsBrightness),
    .setLights .temperature (h.followers h.followsTemperature)]
  have ready : members.isReady = true := (s.isReady_changes _).trans ready
  have all : s.changes h.pushes = ((members.change (.setBrightness h.desired.brightness)).1.change
    (.setTemperature h.desired.temperature)).1 := rfl
  rw [all]
  cases kind with
  | brightness =>
    rw [State.value?_change_of_none rfl]
    exact State.value?_change_of_some (value?_setBrightness h.desired) ready
  | temperature =>
    refine State.value?_change_of_some (value?_setTemperature valid) ?_
    rw [State.isReady_change, ready]

/-- Commands change memberships only. -/
theorem value?_of_asked {h : Household σ} {call : HostCall} {c : Change} (mem : c ∈ h.asked call)
    (kind : GroupKind) : c.value? kind = none := by
  have tracking (t : Tracking) (other : GroupKind) (lights : NameSet)
      (mem : c ∈ t.changes other lights) : c.value? kind = none := by
    cases t with
    | keep => cases mem
    | start | stop =>
      rw [Tracking.changes, List.mem_singleton] at mem
      subst mem
      cases kind <;> rfl
  have decision (d : Decision) (lights : Option NameSet) (mem : c ∈ d.changes lights) :
      c.value? kind = none := by
    cases lights with
    | none => cases mem
    | some lights =>
      rcases List.mem_append.1 mem with mem | mem
      · exact tracking _ _ lights mem
      · exact tracking _ _ lights mem
  unfold asked at mem
  split at mem
  · cases mem
  · split at mem
    · split at mem
      · exact decision _ _ mem
      · cases mem
    · exact decision _ _ mem

/-- What the reconciler was told last of a desired value. -/
structure Notice where
  /-- The value as the bridge takes it, if there was one. -/
  value : Option Nat
  /-- Was another value reported in night mode since? -/
  stale : Bool

namespace DrivenHouse

/-- Is a desired value passed on in a happening? It is when it is reported outside night mode, and
when everything desired is pushed. -/
def tells (h : DrivenHouse σ) (kind : GroupKind) : Happening σ → Bool
  | .operation .pushDesired => true
  | .operation op => op.reports kind && !h.house.desired.nightMode
  | .answer d answer => h.loads d answer
  | _ => false

/-- What was told last after a happening. -/
def notice (h : DrivenHouse σ) (kind : GroupKind) (e : Happening σ) (n : Notice) : Notice :=
  if h.tells kind e then ⟨some (onBridge kind ((h.wishes e).value kind)), false⟩
  else { n with stale := n.stale || e.reports kind }

/-- What was told last after several happenings. -/
def notices (kind : GroupKind) : DrivenHouse σ → List (Happening σ) → Notice → Notice
  | _, [], n => n
  | h, e :: rest, n => notices kind (h.proceed e) rest (h.notice kind e n)

variable {h : DrivenHouse σ} {kind : GroupKind} {n : Notice}

omit [Host σ] in
theorem notice_of_not_tells {e : Happening σ} (untold : h.tells kind e = false) (n : Notice) :
    h.notice kind e n = { n with stale := n.stale || e.reports kind } :=
  if_neg (Bool.eq_false_iff.1 untold)

theorem notices_append (first second : List (Happening σ)) :
    h.notices kind (first ++ second) n =
      (h.proceedAll first).notices kind second (h.notices kind first n) := by
  induction first generalizing h n with
  | nil => rfl
  | cons e rest ih => exact ih

/-- Operations make no managed group known, and none unknown. -/
theorem isReady_proceed_operation (h : DrivenHouse σ) (op : Operation) :
    (h.proceed (.operation op)).state.isReady = h.state.isReady := by
  obtain ⟨cs, becomes, -⟩ := h.house.becomes_operate op
  rw [← h.state.isReady_changes cs]
  exact State.isReady_congr becomes.state

/-- If the household pushes when the managed groups were loaded, what it passes on is wanted. -/
theorem value?_of_tells {e : Happening σ} (repush : h.house.settings.repushOnReady = true)
    (valid : h.house.desired.Valid) (told : h.tells kind e = true)
    (ready : (h.proceed e).state.isReady = true) :
    (h.proceed e).state.value? kind = some (onBridge kind ((h.wishes e).value kind)) := by
  cases e with
  | operation op =>
    have known : h.state.isReady = true := (h.isReady_proceed_operation op).symm.trans ready
    cases op with
    | pushDesired =>
      exact (State.value?_congr h.house.becomes_pushDesired.state kind).trans
        (value?_pushes valid known kind)
    | brightnessChanged value =>
      obtain ⟨own, day⟩ := Bool.and_eq_true_iff.1 told
      cases of_decide_eq_true own
      have state := (h.house.becomes_brightnessChanged value (Bool.not_eq_true' _ ▸ day)).state
      exact (State.value?_congr state .brightness).trans
        (State.value?_change_of_some (value?_setBrightness _) known)
    | temperatureChanged value =>
      obtain ⟨own, day⟩ := Bool.and_eq_true_iff.1 told
      cases of_decide_eq_true own
      have state := (h.house.becomes_temperatureChanged value (Bool.not_eq_true' _ ▸ day)).state
      exact (State.value?_congr state .temperature).trans
        (State.value?_change_of_some (value?_setTemperature (valid.wishes _)) known)
    | _ => cases told
  | host host => cases told
  | go d => cases told
  | answer d answer =>
    rcases h.answer_cases d answer with ⟨-, u, known, after⟩ | ⟨silent, -⟩
    · rw [heard, if_pos repush] at after
      rw [State.value?_congr after kind]
      exact value?_pushes valid known kind
    · exact absurd (told : h.loads d answer = true) (Bool.eq_false_iff.1 silent)

/-- An operation that does not pass a value on asks for no other one. -/
theorem value?_of_asks {op : Operation} {c : Change} (untold : h.tells kind (.operation op) = false)
    (asks : h.house.Asks op c) : c.value? kind = none := by
  cases asks with
  | turnOn asked => exact value?_of_asked asked kind
  | autoOn ids before asked => exact value?_of_asked asked kind
  | brightnessChanged value day =>
    cases kind with
    | brightness => simp [tells, Operation.reports, day] at untold
    | temperature => rfl
  | temperatureChanged value day =>
    cases kind with
    | brightness => rfl
    | temperature => simp [tells, Operation.reports, day] at untold
  | pushDesired pushed => cases untold
  | turnOff | dim | entityAdded | entityRemoved | expireTimer | runLoop | reload | allOff =>
    cases kind <;> rfl

/-- What is not passed on changes no value that is wanted, and makes no group known. -/
theorem value?_of_not_tells {e : Happening σ} (untold : h.tells kind e = false)
    (ready : (h.proceed e).state.isReady = true) :
    h.state.isReady = true ∧ (h.proceed e).state.value? kind = h.state.value? kind := by
  cases e with
  | operation op =>
    obtain ⟨cs, becomes, asks⟩ := h.house.becomes_operate op
    rw [← h.state.isReady_changes cs, ← State.value?_changes_of_none
      (fun c mem => value?_of_asks untold (asks c mem)) h.state]
    exact ⟨(State.isReady_congr becomes.state).symm.trans ready,
      State.value?_congr becomes.state kind⟩
  | host host => exact ⟨ready, rfl⟩
  | go d =>
    have same := h.scene.unclaimed_next (.go d)
    exact ⟨(State.isReady_congr same).symm.trans ready, State.value?_congr same kind⟩
  | answer d answer =>
    rcases h.answer_cases d answer with ⟨loaded, -⟩ | ⟨-, same | ⟨u, quiet, after⟩⟩
    · exact absurd loaded (Bool.eq_false_iff.1 untold)
    · exact ⟨(State.isReady_congr same).symm.trans ready, State.value?_congr same kind⟩
    · rw [State.isReady_congr after] at ready
      have known (groups : List Bridge.Group) : u ≠ .groups groups := by
        rintro rfl
        exact absurd ready (Bool.eq_false_iff.1 quiet)
      exact ⟨(State.isReady_update known).symm.trans ready,
        (State.value?_congr after kind).trans (State.value?_update known)⟩

/-! ## The value that was told last -/

/-- The reconciler wants what it was told last, which is what the household wants unless another
value was reported in night mode since. -/
structure InTouch (h : DrivenHouse σ) (kind : GroupKind) (n : Notice) : Prop where
  valid : h.house.desired.Valid
  told : h.state.isReady = true → h.state.value? kind = n.value
  current : h.state.isReady = true → n.stale = false →
    n.value = some (onBridge kind (h.house.desired.value kind))

theorem InTouch.proceed (inTouch : h.InTouch kind n)
    (repush : h.house.settings.repushOnReady = true) (e : Happening σ) :
    (h.proceed e).InTouch kind (h.notice kind e n) := by
  have desired := (h.house_proceed e).2
  have valid : (h.proceed e).house.desired.Valid := by
    rw [desired]
    cases e with
    | operation op => exact inTouch.valid.wishes op
    | host | go | answer => exact inTouch.valid
  cases told : h.tells kind e with
  | true =>
    rw [notice, if_pos told, ← desired]
    refine ⟨valid, fun ready => ?_, fun _ _ => rfl⟩
    rw [desired]
    exact value?_of_tells repush inTouch.valid told ready
  | false =>
    rw [notice_of_not_tells told]
    have kept (ready : (h.proceed e).state.isReady = true) := value?_of_not_tells told ready
    refine ⟨valid, fun ready => (kept ready).2.trans (inTouch.told (kept ready).1),
      fun ready fresh => ?_⟩
    obtain ⟨fresh, other⟩ := Bool.or_eq_false_iff.1 fresh
    rw [desired, value_wishes other]
    exact inTouch.current (kept ready).1 fresh

theorem InTouch.proceedAll (inTouch : h.InTouch kind n)
    (repush : h.house.settings.repushOnReady = true) (events : List (Happening σ)) :
    (h.proceedAll events).InTouch kind (h.notices kind events n) := by
  induction events generalizing h n with
  | nil => exact inTouch
  | cons e rest ih =>
    exact ih (inTouch.proceed repush e) ((congrArg _ (h.house_proceed e).1).trans repush)

/-- What a household that was just made has told its reconciler: nothing. A reconciler that knows
the managed groups already stays with its values until it is told some. -/
def nothingTold (sync : Reconciler) (kind : GroupKind) : Notice :=
  ⟨sync.state.value? kind, sync.isReady⟩

/-- Whatever a household does that pushes everything desired when the managed groups were loaded:
while the reconciler knows both groups it wants the value that it was told last, and this is the
value that the household wants unless another one was reported in night mode since. -/
theorem reconciler_wants_last_told (settings : HouseSettings) (host : σ) (sync : Reconciler)
    (hands : Nat → Option Reconciler.Plan) (repush : settings.repushOnReady = true)
    (events : List (Happening σ)) (kind : GroupKind) :
    let start : DrivenHouse σ := ⟨.new settings host sync, hands⟩
    let after := start.proceedAll events
    let last := start.notices kind events (nothingTold sync kind)
    after.state.isReady = true →
      after.state.value? kind = last.value ∧
      (last.stale = false →
        after.state.value? kind = some (onBridge kind (after.house.desired.value kind))) := by
  intro start after last ready
  have first : start.InTouch kind (nothingTold sync kind) :=
    ⟨Desired.valid_initial settings, fun _ => rfl,
      fun ready fresh => absurd (fresh.symm.trans ready) Bool.false_ne_true⟩
  have inTouch := first.proceedAll repush events
  have told := inTouch.told ready
  exact ⟨told, fun fresh => told.trans (inTouch.current ready fresh)⟩

/-- Both managed groups are listed. -/
def managedListed : List (Happening Simulation.ScriptedHost) := [
  .go (.hand 0), .answer (.hand 0) (.ok ⟨200, .obj []⟩),
  .go (.hand 0), .answer (.hand 0) (.ok ⟨200, .obj [
    ("1", .obj [("name", .str "Auto Brightness")]),
    ("2", .obj [("name", .str "Auto Temperature")])]⟩)]

/-- A brightness is reported by day, and then another one at night. By day the reconciler wants what
the household wants; after the night it still wants what was reported by day. -/
theorem reconciler_wants_last_told_of_two_reports :
    let start : DrivenHouse Simulation.ScriptedHost :=
      ⟨.new .default (.ofEntities []) (.new .manual .brief), fun _ => none⟩
    let byDay := managedListed ++ [.operation (.brightnessChanged 180)]
    let byNight := byDay ++ [.operation (.nightModeChanged true),
      .operation (.brightnessChanged 60), .operation (.nightModeChanged false)]
    let evening := start.proceedAll byDay
    let morning := start.proceedAll byNight
    let reported (x : Float) := (clampDesired (Decimal.clampTruncated 3 255 x)).toNat
    HouseSettings.default.repushOnReady = true ∧
    evening.state.isReady = true ∧ evening.house.desired.value .brightness = reported 180 ∧
    evening.state.value? .brightness =
      some (onBridge .brightness (evening.house.desired.value .brightness)) ∧
    morning.state.isReady = true ∧ morning.house.desired.value .brightness = reported 60 ∧
    morning.state.value? .brightness = some (onBridge .brightness (reported 180)) ∧
    (start.notices .brightness byNight
      (nothingTold start.house.sync .brightness)).stale = true := by
  intro start byDay byNight evening morning reported
  have repush : HouseSettings.default.repushOnReady = true := rfl
  let loaded := start.proceedAll managedListed
  let dusk := evening.proceed (.operation (.nightModeChanged true))
  let night := dusk.proceed (.operation (.brightnessChanged 60))
  have dayPassed : evening = loaded.proceed (.operation (.brightnessChanged 180)) :=
    List.foldl_append
  have nightPassed : morning = night.proceed (.operation (.nightModeChanged false)) :=
    List.foldl_append
  have readyByDay : evening.state.isReady = true := by
    rw [dayPassed, isReady_proceed_operation]
    decide +kernel
  have readyByNight : morning.state.isReady = true := by
    rw [nightPassed, isReady_proceed_operation, isReady_proceed_operation,
      isReady_proceed_operation]
    exact readyByDay
  -- What was told last, by day and at night.
  have toldByDay : start.notices .brightness byDay (nothingTold start.house.sync .brightness) =
      ⟨some (onBridge .brightness (reported 180)), false⟩ := by
    have tells : loaded.tells .brightness (.operation (.brightnessChanged 180)) = true := by
      decide +kernel
    rw [notices_append]
    exact if_pos tells
  have toldByNight : start.notices .brightness byNight (nothingTold start.house.sync .brightness) =
      ⟨some (onBridge .brightness (reported 180)), true⟩ := by
    have dark : dusk.tells .brightness (.operation (.brightnessChanged 60)) = false := by
      decide +kernel
    rw [notices_append, toldByDay, notices, notices, notices, notices]
    rw [notice_of_not_tells (h := start.proceedAll byDay) rfl, notice_of_not_tells dark,
      notice_of_not_tells rfl]
    rfl
  have reportedByDay : evening.house.desired.value .brightness = reported 180 := by
    rw [dayPassed]
    exact congrArg (·.value .brightness) (loaded.house_proceed _).2
  have reportedByNight : morning.house.desired.value .brightness = reported 60 :=
    calc morning.house.desired.value .brightness
      _ = (night.wishes (.operation (.nightModeChanged false))).value .brightness := by
        rw [nightPassed, (night.house_proceed _).2]
      _ = (dusk.wishes (.operation (.brightnessChanged 60))).value .brightness :=
        congrArg (·.value .brightness) (dusk.house_proceed _).2
  have wanted (events : List (Happening Simulation.ScriptedHost)) :=
    reconciler_wants_last_told .default (.ofEntities []) (.new .manual .brief) (fun _ => none)
      repush events .brightness
  refine ⟨repush, readyByDay, reportedByDay, ?_, readyByNight, reportedByNight, ?_,
    congrArg Notice.stale toldByNight⟩
  · exact (wanted byDay readyByDay).2 (congrArg Notice.stale toldByDay)
  · exact (wanted byNight readyByNight).1.trans (congrArg Notice.value toldByNight)

/-- A value reported at night does not reach the reconciler when the night ends: it wants the
default still, and not the same value from every default. -/
theorem reconciler_not_told_after_night :
    ¬ ∀ (settings : HouseSettings) (sync : SyncSettings) (wording : Wording)
      (host : Simulation.ScriptedHost) (events : List (Happening Simulation.ScriptedHost)),
      settings.repushOnReady = true →
      let after := (new settings sync wording host).proceedAll events
      after.house.desired.nightMode = false → after.state.isReady = true → ∀ kind,
        after.state.value? kind = some (onBridge kind (after.house.desired.value kind)) := by
  intro claim
  let events : List (Happening Simulation.ScriptedHost) := managedListed ++
    [.operation (.nightModeChanged true), .operation (.brightnessChanged 50),
      .operation (.nightModeChanged false)]
  let loaded (brightness : UInt8) : DrivenHouse Simulation.ScriptedHost :=
    (new { HouseSettings.default with defaultBrightness := brightness } .manual .brief
      (.ofEntities [])).proceedAll managedListed
  let night (brightness : UInt8) :=
    (loaded brightness).proceed (.operation (.nightModeChanged true))
  let told (brightness : UInt8) := (night brightness).proceed (.operation (.brightnessChanged 50))
  let after (brightness : UInt8) :=
    (told brightness).proceed (.operation (.nightModeChanged false))
  have run (brightness : UInt8) :
      (new { HouseSettings.default with defaultBrightness := brightness } .manual .brief
        (.ofEntities [])).proceedAll events = after brightness := List.foldl_append
  have wanted (brightness : UInt8) : (after brightness).house.desired.value .brightness =
      (clampDesired (Decimal.clampTruncated 3 255 50)).toNat :=
    calc (after brightness).house.desired.value .brightness
      _ = ((told brightness).wishes (.operation (.nightModeChanged false))).value .brightness :=
        congrArg (·.value .brightness) ((told brightness).house_proceed _).2
      _ = (told brightness).house.desired.value .brightness := rfl
      _ = ((night brightness).wishes (.operation (.brightnessChanged 50))).value .brightness :=
        congrArg (·.value .brightness) ((night brightness).house_proceed _).2
  have agrees (brightness : UInt8) (day : (after brightness).house.desired.nightMode = false)
      (ready : (after brightness).state.isReady = true) :
      (after brightness).state.value? .brightness =
        some (onBridge .brightness (clampDesired (Decimal.clampTruncated 3 255 50)).toNat) := by
    have claimed := claim { HouseSettings.default with defaultBrightness := brightness } .manual
      .brief (.ofEntities []) events rfl
    rw [run brightness] at claimed
    rw [← wanted brightness]
    exact claimed day ready .brightness
  have dark : (after 10).state.value? .brightness = some 10 := by decide +kernel
  have bright : (after 100).state.value? .brightness = some 100 := by decide +kernel
  have same := (agrees 10 (by decide +kernel) (by decide +kernel)).trans
    (agrees 100 (by decide +kernel) (by decide +kernel)).symm
  rw [dark, bright] at same
  cases same

end DrivenHouse
end Household
end LightSync
