import LightSync.Proofs.Moves
import LightSync.Proofs.Planning

/-!
# When values fade

The trail of a managed value tells what was wanted of it since it was last confirmed. A request for
the value fades slowly if the last change on the trail was major. How far the value came since it
was confirmed plays no part: after a large jump and a small step there is no fade.

## Main definitions

- `Touch`, `Touch.Makes`: what can happen to a managed value
- `Trail`, `Trail.next`, `Trail.along`
- `Trail.lastMajor`, `Trail.Jumped`: how far the last change went, and all of them together
- `Dial`, `Dial.touch`, `Dial.trail`: the two managed values, and what moves do to them
- `FadesByLastChange`: a request fades as the last changes of its values say
-/

namespace LightSync

/-- What can happen to a managed value. -/
inductive Touch (α : Type) where
  | want (value : α)
  | confirm (value : α)
  /-- Its group is listed anew. -/
  | forget
  | keep

/-- What a touch makes of the cell of a value, where its group is known. -/
def Touch.Makes {α : Type} [DecidableEq α] [Drift α] (zero : α) :
    Touch α → Option (Cell α) → Option (Cell α) → Prop
  | .want value, before, after => after = before.map fun c => (c.set value).1
  | .confirm value, before, after => after = before.map (Reconciler.State.confirm (some value))
  | .forget, _, after => ∀ c, after = some c → c = Cell.empty.reset zero
  | .keep, before, after => after = before

/-- What happened to a managed value since its group was listed. -/
structure Trail (α : Type) where
  /-- The value that was confirmed last. -/
  confirmed : Option α
  /-- The values that were wanted since then, the latest first. -/
  wanted : List α

namespace Trail

variable {α : Type} {zero : α} {t : Trail α}

def fresh : Trail α := ⟨none, []⟩

/-- The value before the first one wanted: the confirmed one, or what a listing leaves. -/
def base (zero : α) (t : Trail α) : α := t.confirmed.getD zero

def current (zero : α) (t : Trail α) : α := t.wanted.headD (t.base zero)

/-- The trail after a touch. Only another value is a change, and only the value that is wanted now
can be confirmed. -/
def next [DecidableEq α] (zero : α) (t : Trail α) : Touch α → Trail α
  | .want value => if t.current zero = value then t else ⟨t.confirmed, value :: t.wanted⟩
  | .confirm value => if t.current zero = value then ⟨some value, []⟩ else t
  | .forget => fresh
  | .keep => t

/-- The trail of a value, by what each of some moves does to it. -/
def along {μ : Type} [DecidableEq α] (zero : α) (touch : μ → Touch α) (moves : List μ) : Trail α :=
  moves.foldl (fun t m => t.next zero (touch m)) fresh

section

variable [Drift α]

/-- Was the last change a major one? -/
def lastMajor (zero : α) (t : Trail α) : Bool :=
  match t.wanted with
  | [] => false
  | value :: before => Drift.isMajor (some (before.headD (t.base zero))) value

/-- The value is far from the one that was confirmed last, or none was confirmed. -/
def Jumped (zero : α) (t : Trail α) : Prop :=
  ∀ value, t.confirmed = some value → Drift.isMajor (some value) (t.current zero) = true

/-- A value that was changed once since it was confirmed jumped exactly if that change was major. -/
theorem lastMajor_of_once {value before : α} (once : t.wanted = [value])
    (confirmed : t.confirmed = some before) : t.lastMajor zero = true ↔ t.Jumped zero := by
  have major : t.lastMajor zero = Drift.isMajor (some before) value := by
    simp only [lastMajor, once, List.headD_nil, base, confirmed, Option.getD_some]
  have current : t.current zero = value := by simp only [Trail.current, once, List.headD_cons]
  simp only [major, Jumped, current, confirmed, Option.some.injEq, forall_eq']

/-- The cell of a value is as its trail says. -/
structure Tells (zero : α) (t : Trail α) (c : Cell α) : Prop where
  value : c.value = some (t.current zero)
  clean : c.dirty = false ↔ t.wanted = [] ∧ t.confirmed.isSome = true
  major : c.major = t.lastMajor zero

theorem tells_fresh (zero : α) : fresh.Tells zero (Cell.empty.reset zero) where
  value := rfl
  clean := ⟨nofun, fun h => nomatch h.2⟩
  major := rfl

/-- A value that is to be sent is the last one wanted. -/
theorem Tells.head_of_pending [DecidableEq α] {c : Cell α} {lights : Cell NameSet} {value : α}
    (h : t.Tells zero c) (pending : Reconciler.State.pendingValue zero c lights = some value) :
    t.wanted.head? = some value := by
  obtain ⟨dirty, -, held, real⟩ := Reconciler.State.pendingValue_eq_some_iff.1 pending
  have current : t.current zero = value := Option.some.inj (h.value.symm.trans held)
  obtain ⟨confirmed, wanted⟩ := t
  cases wanted with
  | cons last before => exact congrArg some current
  | nil =>
    -- Without a change the cell is clean, or holds what a listing leaves.
    cases confirmed with
    | none => exact absurd current.symm real
    | some value => exact nomatch dirty.symm.trans (h.clean.2 ⟨rfl, rfl⟩)

variable [DecidableEq α]

theorem Tells.next {touch : Touch α} {before after : Option (Cell α)}
    (h : ∀ c, before = some c → t.Tells zero c) (made : touch.Makes zero before after) :
    ∀ c, after = some c → (t.next zero touch).Tells zero c := by
  have holds {c : Cell α} {value : α} (told : t.Tells zero c) :
      c.value = some value ↔ t.current zero = value := by
    rw [told.value, Option.some.injEq]
  intro c found
  cases touch with
  | want value =>
    have here : before.map (fun c => (c.set value).1) = some c := made ▸ found
    obtain ⟨c₀, known, rfl⟩ := Option.map_eq_some_iff.1 here
    have told := h c₀ known
    by_cases same : t.current zero = value
    · rw [Trail.next, if_pos same, Cell.set_of_eq ((holds told).2 same)]
      exact told
    · rw [Trail.next, if_neg same, Cell.set_of_ne fun held => same ((holds told).1 held),
        told.value]
      exact ⟨rfl, ⟨nofun, fun h => nomatch h.1⟩, rfl⟩
  | confirm value =>
    have here : before.map (Reconciler.State.confirm (some value)) = some c := made ▸ found
    obtain ⟨c₀, known, rfl⟩ := Option.map_eq_some_iff.1 here
    have told := h c₀ known
    by_cases same : t.current zero = value
    · have held := (holds told).2 same
      rw [Trail.next, if_pos same, Cell.confirm_eq_clean held]
      exact ⟨held, ⟨fun _ => ⟨rfl, rfl⟩, fun _ => rfl⟩, rfl⟩
    · rw [Trail.next, if_neg same, Cell.confirm_of_ne fun held => same ((holds told).1 held)]
      exact told
  | forget =>
    rw [made c found]
    exact tells_fresh zero
  | keep => exact h c (made ▸ found)

end

end Trail

namespace Reconciler

open Bridge

/-! ## What is known of a managed group -/

namespace State

variable {s t : State} {settings : SyncSettings}

/-- What is known of a value of a managed group. -/
def viewOf {β : Type} (s : State) (kind : GroupKind) (view : Group → β) : Option β :=
  (s.group? kind).map view

theorem viewOf_congr {β : Type} {view : Group → β} (same : s.unclaimed = t.unclaimed)
    (kind : GroupKind) : s.viewOf kind view = t.viewOf kind view := by
  rw [viewOf, viewOf, group?_congr same]

/-- A change keeps what its edit keeps of every group. -/
theorem viewOf_change {β : Type} {view : Group → β} {c : Change}
    (kept : ∀ kind f, c.edit? = some (kind, f) → ∀ g, view (f g).1 = view g) (s : State)
    (kind : GroupKind) : (s.change c).1.viewOf kind view = s.viewOf kind view := by
  rcases s.change_cases c with ⟨other, f, edits, made⟩ | ⟨same, -⟩ | ⟨-, -, request⟩
  · rw [made]
    exact view_group? (view_modifyGroup (kept other f edits) s other)
      (fun _ => place_modifyGroup ..) kind
  · rw [same]
  · have same : (s.change c).1.group? kind = s.group? kind := by
      rcases request with ⟨fade, rfl⟩ | rfl | rfl <;> cases kind <;> rfl
    rw [viewOf, same, viewOf]

/-- Wanting a value sets its cell. -/
theorem viewOf_changeGroup {β : Type} {view : Group → β} {kind : GroupKind}
    {f : Group → Group × Bool} (idle : ∀ g, (f g).2 = false → view (f g).1 = view g) (s : State) :
    (s.changeGroup kind f).1.viewOf kind view = (s.group? kind).map fun g => view (f g).1 := by
  unfold changeGroup
  cases known : s.group? kind with
  | none => simp only [viewOf, known, Option.map_none]
  | some g =>
    by_cases made : (f g).2 = true
    · simp only [if_pos made, viewOf, group?_modifyGroup, known, if_true, Option.map_some]
    · simp only [if_neg made, viewOf, known, Option.map_some]
      rw [idle g (Bool.eq_false_iff.2 made)]

/-- An update keeps the values of the managed groups, but for listing the groups and confirming. -/
theorem viewOf_update {β : Type} {view : Group → β} {u : Update} {kind : GroupKind}
    (lights : ∀ (g : Group) cell, view { g with lights := cell } = view g)
    (other : (∀ groups, u ≠ .groups groups) ∧ ∀ bri ct, u ≠ .values bri ct) :
    (s.update settings u).viewOf kind view = s.viewOf kind view := by
  cases u with
  | allOff =>
    rw [viewOf, group?_update_allOff, Option.map_map, viewOf]
    congr 1
    funext g
    exact lights g _
  | lights => rw [viewOf, group?_update_lights, viewOf]
  | groups groups => exact absurd rfl (other.1 groups)
  | membership =>
    rw [viewOf, group?_update_membership, Option.map_map, viewOf]
    congr 1
    funext g
    simp only [Function.comp_apply, Group.confirmLights]
    split
    · split
      · exact lights g _
      · rfl
    · rfl
  | values bri ct => exact absurd rfl (other.2 bri ct)

end State

/-! ## The managed values -/

/-- A managed value: the cell that holds it, which changes want it, and how it is confirmed. -/
structure Dial (α : Type) [DecidableEq α] [Drift α] where
  kind : GroupKind
  cell : Group → Cell α
  /-- What the cell holds after a listing, before any value is wanted. -/
  zero : α
  wanted : Change → Option α
  confirmed : Option UInt8 → Option UInt16 → Option α
  cell_lights : ∀ (g : Group) lights, cell { g with lights } = cell g
  cell_reset : ∀ g : Group, cell g.resetTracking = Cell.empty.reset zero
  edit_wanted : ∀ c value, wanted c = some value → ∃ f, c.edit? = some (kind, f) ∧
    ∀ g, cell (f g).1 = ((cell g).set value).1 ∧ (f g).2 = ((cell g).set value).2
  edit_other : ∀ c, wanted c = none → ∀ kind f, c.edit? = some (kind, f) →
    ∀ g, cell (f g).1 = cell g
  update_values : ∀ (s : State) settings bri ct,
    (s.update settings (.values bri ct)).viewOf kind cell =
      (s.viewOf kind cell).map (State.confirm (confirmed bri ct))

namespace Dial

def brightness : Dial UInt8 where
  kind := .brightness
  cell g := g.brightness
  zero := 0
  wanted
    | .setBrightness value => some (Brightness.clamped value.toNat).value
    | _ => none
  confirmed bri _ := bri
  cell_lights _ _ := rfl
  cell_reset _ := rfl
  edit_wanted c value wants := by
    cases c with
    | setBrightness asked =>
      obtain rfl := Option.some.inj wants
      exact ⟨_, rfl, fun _ => ⟨rfl, rfl⟩⟩
    | _ => cases wants
  edit_other c other kind f edits g := by
    cases c with
    | setBrightness asked => cases other
    | _ => cases edits <;> rfl
  update_values s settings bri ct := by
    simp only [State.viewOf, State.group?_update_values, Option.map_map, if_true]
    rfl

def colorTemp : Dial UInt16 where
  kind := .temperature
  cell g := g.colorTemp
  zero := 0
  wanted
    | .setTemperature mirek => some (ColorTemp.clamped mirek.toNat).mirek
    | _ => none
  confirmed _ ct := ct
  cell_lights _ _ := rfl
  cell_reset _ := rfl
  edit_wanted c value wants := by
    cases c with
    | setTemperature asked =>
      obtain rfl := Option.some.inj wants
      exact ⟨_, rfl, fun _ => ⟨rfl, rfl⟩⟩
    | _ => cases wants
  edit_other c other kind f edits g := by
    cases c with
    | setTemperature asked => cases other
    | _ => cases edits <;> rfl
  update_values s settings bri ct := by
    simp only [State.viewOf, State.group?_update_values, Option.map_map, if_true]
    rfl

variable {α : Type} [DecidableEq α] [Drift α] (d : Dial α) {s : State} {settings : SyncSettings}

/-- What a move does to the value. -/
def touch : Move → Touch α
  | .change c => (d.wanted c).elim .keep .want
  | .update (.groups _) => .forget
  | .update (.values bri ct) => (d.confirmed bri ct).elim .keep .confirm
  | .update _ => .keep

/-- The trail of the value after some moves. -/
def trail (moves : List Move) : Trail α := .along d.zero d.touch moves

def cell? (s : State) : Option (Cell α) := s.viewOf d.kind d.cell

theorem makes_touch (s : State) (m : Move) :
    (d.touch m).Makes d.zero (d.cell? s) (d.cell? (s.move settings m)) := by
  cases m with
  | change c =>
    rw [touch]
    cases asked : d.wanted c with
    | none => exact State.viewOf_change (d.edit_other c asked) s d.kind
    | some value =>
      obtain ⟨f, edits, sets⟩ := d.edit_wanted c value asked
      have idle (g : Group) (same : (f g).2 = false) : d.cell (f g).1 = d.cell g := by
        rw [(sets g).2] at same
        rw [(sets g).1]
        exact Cell.set_of_not_changed same
      have made : d.cell? (s.change c).1 = (s.group? d.kind).map fun g => d.cell (f g).1 := by
        rw [State.change_of_edit edits]
        exact State.viewOf_changeGroup idle s
      exact made.trans (by simp only [sets, cell?, State.viewOf, Option.map_map, Function.comp_def])
  | update u =>
    cases u with
    | groups groups =>
      intro c found
      have here : (s.update settings (.groups groups)).viewOf d.kind d.cell = some c := found
      rw [State.viewOf, State.group?_update_groups, Option.map_map] at here
      obtain ⟨listed, -, rfl⟩ := Option.map_eq_some_iff.1 here
      exact d.cell_reset listed
    | values bri ct =>
      have made := d.update_values s settings bri ct
      rw [touch]
      cases confirmed : d.confirmed bri ct with
      | some value =>
        rw [confirmed] at made
        exact made
      | none =>
        rw [confirmed] at made
        exact made.trans (congrFun Option.map_id_fun' _)
    | _ => exact State.viewOf_update d.cell_lights ⟨nofun, nofun⟩

theorem tells_of_moveAll {t : Trail α} (moves : List Move)
    (start : ∀ c, d.cell? s = some c → t.Tells d.zero c) :
    ∀ c, d.cell? (s.moveAll settings moves) = some c →
      (moves.foldl (fun t m => t.next d.zero (d.touch m)) t).Tells d.zero c := by
  induction moves generalizing s t with
  | nil => exact start
  | cons m rest ih => exact ih (Trail.Tells.next start (d.makes_touch s m))

/-- In every run the cell of a managed value is as its trail says. -/
theorem tells_run (settings : SyncSettings) (wording : Wording) (events : List Scene.Event)
    {g : Group}
    (known : ((Scene.new settings wording).run events).state.group? d.kind = some g) :
    (d.trail ((Scene.new settings wording).movesOf events)).Tells d.zero (d.cell g) := by
  have same := (Scene.new settings wording).unclaimed_run events
  have unknown (c : Cell α) : d.cell? State.empty ≠ some c := by
    have nothing : State.empty.group? d.kind = none := by cases d.kind <;> rfl
    rw [cell?, State.viewOf, nothing]
    exact (Option.some_ne_none c).symm
  have found :
      d.cell? (State.empty.moveAll settings ((Scene.new settings wording).movesOf events)) =
      some (d.cell g) :=
    (State.viewOf_congr same d.kind).symm.trans (congrArg (Option.map d.cell) known)
  exact d.tells_of_moveAll _ (fun c here => absurd here (unknown c)) (d.cell g) found

end Dial

/-- A request for values fades as the last changes of the values that it carries say: slowly if one
of them was major. So a value that was changed once fades if it jumped. -/
structure FadesByLastChange (settings : SyncSettings) (command : Command) (bri : Trail UInt8)
    (ct : Trail UInt16) : Prop where
  brightness : ∀ value, command.bri = some value → bri.wanted.head? = some value
  colorTemp : ∀ value, command.ct = some value → ct.wanted.head? = some value
  transition : command.transition =
    if command.bri.isSome && bri.lastMajor 0 || command.ct.isSome && ct.lastMajor 0 then
      some settings.majorTransition
    else none
  brightnessOnce : command.bri.isSome = true → ∀ value before, bri.wanted = [value] →
    bri.confirmed = some before → bri.Jumped 0 →
    command.transition = some settings.majorTransition
  colorTempOnce : command.ct.isSome = true → ∀ value before, ct.wanted = [value] →
    ct.confirmed = some before → ct.Jumped 0 →
    command.transition = some settings.majorTransition

namespace Scene

/-- Values fade by their last change. In every run, whoever drives it and whatever the bridge
answers: a request for values carries what was wanted last, and fades slowly if and only if one of
the values it carries differed by more than ten from what was wanted just before. -/
theorem values_fade_by_last_change (settings : SyncSettings) (wording : Wording)
    (events : List Event) (path : String)
    (command : Command)
    (planned :
      ((new settings wording).run events).state.plan settings = some (.values path command)) :
    let moves := (new settings wording).movesOf events
    FadesByLastChange settings command (Dial.brightness.trail moves)
      (Dial.colorTemp.trail moves) := by
  intro moves
  obtain ⟨-, -, -, values⟩ := State.values_of_plan planned
  obtain ⟨b, t, hb, ht, same, -⟩ := State.planValues_cases values
  have is : command = State.valuesCommand settings b t := (Plan.values.inj same).2
  have bri : (Dial.brightness.trail moves).Tells 0 b.brightness :=
    Dial.brightness.tells_run settings wording events hb
  have ct : (Dial.colorTemp.trail moves).Tells 0 t.colorTemp :=
    Dial.colorTemp.tells_run settings wording events ht
  have transition : command.transition =
      if command.bri.isSome && (Dial.brightness.trail moves).lastMajor 0 ||
        command.ct.isSome && (Dial.colorTemp.trail moves).lastMajor 0 then
        some settings.majorTransition
      else none := by
    rw [← bri.major, ← ct.major, is]
    rfl
  refine ⟨?_, ?_, transition, ?_, ?_⟩
  · rintro value carried
    exact bri.head_of_pending ((congrArg Command.bri is).symm.trans carried)
  · rintro value carried
    rw [is] at carried
    have pending : State.pendingValue 0 t.colorTemp t.lights = some value := by
      simp only [State.valuesCommand] at carried
      split at carried
      · exact carried
      · cases carried
    exact ct.head_of_pending pending
  · intro carried value before once confirmed jumped
    rw [transition, carried, (Trail.lastMajor_of_once once confirmed).2 jumped]
    rfl
  · intro carried value before once confirmed jumped
    rw [transition, carried, (Trail.lastMajor_of_once once confirmed).2 jumped]
    simp

/-- Light 1 is made the only light of a group, which is managed for both values. -/
def oneLight : List Event := [
  .go (.hand 0), .answer (.hand 0) (.ok ⟨200, .obj []⟩) true [],
  .go (.hand 0), .answer (.hand 0) (.ok ⟨200, .obj [("1", .obj [("name", .str "A")])]⟩) true [],
  .change true (.setLights .brightness (.ofList ["1"])), .go (.hand 0),
  .answer (.hand 0)
    (.ok ⟨200, .arr [.obj [("success", .obj [("/groups/1/lights", .strings ["1"])])]]⟩) true []]

/-- A brightness of 100 is wanted and confirmed. -/
def brightnessConfirmed : List Event := [
  .change true (.setBrightness 100), .go (.hand 0),
  .answer (.hand 0)
    (.ok ⟨200, .arr [.obj [("success", .obj [("/groups/1/action/bri", .ofNat 100)])]]⟩) true []]

/-- A brightness of 200 after a confirmed one of 100 fades. -/
theorem values_fade_by_last_change_of_jump :
    let settings := { SyncSettings.manual with brightnessGroup := "A", temperatureGroup := "A" }
    let events := oneLight ++ brightnessConfirmed ++ [.change true (.setBrightness 200)]
    let command : Command := ⟨none, some 200, none, some settings.majorTransition⟩
    let moves := (new settings .brief).movesOf events
    ((new settings .brief).run events).state.plan settings =
      some (.values "/groups/1/action" command) ∧
    FadesByLastChange settings command (Dial.brightness.trail moves)
      (Dial.colorTemp.trail moves) := by
  intro settings events command moves
  have planned : ((new settings .brief).run events).state.plan settings =
      some (.values "/groups/1/action" command) := by decide +kernel
  exact ⟨planned, values_fade_by_last_change settings .brief events _ command planned⟩

/-- A confirmed brightness of 100 becomes 200 and then 195, which is sent without a fade. So is a
brightness of 5 that is the first one after a listing. -/
theorem jump_in_small_last_step_snaps :
    let settings := { SyncSettings.manual with brightnessGroup := "A", temperatureGroup := "A" }
    let events := oneLight ++ brightnessConfirmed ++
      [.change true (.setBrightness 200), .change true (.setBrightness 195)]
    let trail := Dial.brightness.trail ((new settings .brief).movesOf events)
    let first := oneLight ++ [.change true (.setBrightness 5)]
    (((new settings .brief).run events).state.plan settings =
        some (.values "/groups/1/action" ⟨none, some 195, none, none⟩) ∧
      trail.confirmed = some 100 ∧ trail.current 0 = 195 ∧ trail.Jumped 0) ∧
    ((new settings .brief).run first).state.plan settings =
        some (.values "/groups/1/action" ⟨none, some 5, none, none⟩) ∧
      (Dial.brightness.trail ((new settings .brief).movesOf first)).confirmed = none := by
  intro settings events trail first
  have confirmed : trail.confirmed = some 100 := by decide +kernel
  have current : trail.current 0 = 195 := by decide +kernel
  refine ⟨⟨by decide +kernel, confirmed, current, ?_⟩, by decide +kernel, by decide +kernel⟩
  intro value before
  cases confirmed.symm.trans before
  rw [current]
  decide

end Scene
end Reconciler
end LightSync
