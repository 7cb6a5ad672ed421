import LightSync.Proofs.Fading

/-!
# Values that are safe to send

Values are sent only when nothing else is due: both managed groups are known, and their lights are
confirmed, or there are none. What is sent was wanted by a change, and a change moves what it wants
into the range of the bridge; so the zero that a listing leaves is never sent. While one of the
managed groups is not known, nothing is written but an all-off.

## Main definitions

- `SafeValues`: when a command for the values of two groups is safe
-/

namespace LightSync

/-! ## What is wanted is in range -/

namespace Trail

variable {α μ : Type} {zero : α} [DecidableEq α]

/-- A touch wants the values that were wanted before it, and at most the one that it asks for. -/
theorem mem_wanted_next {t : Trail α} {touch : Touch α} {value : α}
    (mem : value ∈ (t.next zero touch).wanted) : value ∈ t.wanted ∨ touch = .want value := by
  cases touch with
  | want asked =>
    simp only [Trail.next] at mem
    split at mem
    · exact .inl mem
    · rcases List.mem_cons.1 mem with rfl | earlier
      · exact .inr rfl
      · exact .inl earlier
  | confirm confirmed =>
    simp only [Trail.next] at mem
    split at mem
    · exact absurd mem List.not_mem_nil
    · exact .inl mem
  | forget => exact absurd mem List.not_mem_nil
  | keep => exact .inl mem

theorem mem_wanted_foldl {t : Trail α} {touch : μ → Touch α} {moves : List μ} {value : α}
    (mem : value ∈ (moves.foldl (fun t m => t.next zero (touch m)) t).wanted) :
    value ∈ t.wanted ∨ ∃ m ∈ moves, touch m = .want value := by
  induction moves generalizing t with
  | nil => exact .inl mem
  | cons m rest ih =>
    rcases ih mem with before | ⟨m', later, wants⟩
    · rcases mem_wanted_next before with earlier | wants
      · exact .inl earlier
      · exact .inr ⟨m, List.mem_cons_self .., wants⟩
    · exact .inr ⟨m', List.mem_cons_of_mem _ later, wants⟩

/-- Every value on a trail was wanted by one of the moves. -/
theorem exists_want_of_mem {touch : μ → Touch α} {moves : List μ} {value : α}
    (mem : value ∈ (along zero touch moves).wanted) : ∃ m ∈ moves, touch m = .want value :=
  (mem_wanted_foldl mem).resolve_left List.not_mem_nil

end Trail

namespace Reconciler

open Bridge

namespace Dial

/-- Every value on the trail of a managed value is what a change wants. -/
theorem exists_change_of_mem {α : Type} [DecidableEq α] [Drift α] (d : Dial α) {moves : List Move}
    {value : α} (mem : value ∈ (d.trail moves).wanted) : ∃ c, d.wanted c = some value := by
  obtain ⟨m, -, wants⟩ := Trail.exists_want_of_mem mem
  cases m with
  | change c =>
    refine ⟨c, ?_⟩
    rw [touch] at wants
    cases asked : d.wanted c with
    | none =>
      rw [asked] at wants
      cases wants
    | some wanted =>
      rw [asked] at wants
      cases wants
      rfl
  | update u =>
    cases u with
    | values bri ct =>
      rw [touch] at wants
      cases confirmed : d.confirmed bri ct with
      | none =>
        rw [confirmed] at wants
        cases wants
      | some _ =>
        rw [confirmed] at wants
        cases wants
    | _ => cases wants

theorem brightness_wanted_mem {c : Change} {value : UInt8}
    (wants : brightness.wanted c = some value) : 3 ≤ value.toNat ∧ value.toNat ≤ 254 := by
  cases c with
  | setBrightness asked =>
    obtain rfl := Option.some.inj wants
    exact Brightness.clamped_mem asked.toNat
  | _ => cases wants

theorem colorTemp_wanted_mem {c : Change} {value : UInt16}
    (wants : colorTemp.wanted c = some value) : 153 ≤ value.toNat ∧ value.toNat ≤ 454 := by
  cases c with
  | setTemperature asked =>
    obtain rfl := Option.some.inj wants
    exact ColorTemp.clamped_mem asked.toNat
  | _ => cases wants

/-- In every run, a managed value that is to be sent is what a change wants. -/
theorem exists_change_of_pending {α : Type} [DecidableEq α] [Drift α] (d : Dial α)
    {settings : SyncSettings} {wording : Wording} {events : List Scene.Event} {g : Group}
    {value : α}
    (known : ((Scene.new settings wording).run events).state.group? d.kind = some g)
    (pending : State.pendingValue d.zero (d.cell g) g.lights = some value) :
    ∃ c, d.wanted c = some value :=
  d.exists_change_of_mem
    (List.mem_of_mem_head? ((d.tells_run settings wording events known).head_of_pending pending))

end Dial

/-! ## What is sent -/

/-- The command for the values of two managed groups is safe in a state: nothing else is due there,
and the command carries pending values of these groups, within the range of the bridge. -/
structure SafeValues (s : State) (b t : Group) (command : Command) : Prop where
  listed : s.Listed
  lights : ∀ kind g, s.group? kind = some g → g.lights.isEmpty = true ∨ g.lights.dirty = false
  carries : command.bri.isSome = true ∨ command.ct.isSome = true
  power : command.on = none
  brightness : ∀ bri, command.bri = some bri → (3 ≤ bri.toNat ∧ bri.toNat ≤ 254) ∧
    b.brightness.value = some bri ∧ b.brightness.dirty = true ∧ b.lights.isEmpty = false
  colorTemp : ∀ ct, command.ct = some ct → (153 ≤ ct.toNat ∧ ct.toNat ≤ 454) ∧
    t.colorTemp.value = some ct ∧ t.colorTemp.dirty = true ∧ t.lights.isEmpty = false
  together : command.bri.isSome = true → command.ct.isSome = true →
    b.lights.value = t.lights.value

namespace State

variable {s : State} {settings : SyncSettings} {plan : Plan}

/-- Where one of the managed groups is not known, the only write is an all-off. -/
theorem ready_of_write (planned : s.plan settings = some plan)
    (writes : plan.request.method = .put) :
    (∃ command, plan = .allOff command) ∨ s.isReady = true := by
  rcases s.plan_cases settings with ⟨fade, -, same⟩ | ⟨-, -, same⟩ | ⟨-, -, -, -, same⟩ | ⟨-, same⟩
  · cases planned.symm.trans same
    exact .inl ⟨_, rfl⟩
  · cases planned.symm.trans same
    cases writes
  · cases planned.symm.trans same
    cases writes
  · rw [planned] at same
    split at same
    · next ready => exact .inr ready
    · cases same

end State

namespace Scene

/-- Values are planned in safe states only, and with safe contents. In every run, whoever drives it
and whatever the bridge answers: if values are to be sent, both managed groups are known and the
command is safe; and as long as one of them is not known, nothing is written but an all-off. -/
theorem values_planned_safely (settings : SyncSettings) (wording : Wording) (events : List Event)
    (plan : Plan)
    (planned : ((new settings wording).run events).state.plan settings = some plan) :
    let s := ((new settings wording).run events).state
    (∀ path command, plan = .values path command →
      ∃ b t, s.group? .brightness = some b ∧ s.group? .temperature = some t ∧
        SafeValues s b t command) ∧
    ((s.group? .brightness = none ∨ s.group? .temperature = none) →
      plan.request.method = .put → ∃ command, plan = .allOff command) := by
  intro s
  refine ⟨?_, ?_⟩
  · rintro path command rfl
    obtain ⟨listed, -, memberships, values⟩ := State.values_of_plan planned
    obtain ⟨b, t, hb, ht, is, carries⟩ := State.planValues_cases values
    obtain ⟨-, rfl⟩ := Plan.values.inj is
    -- The command carries the color temperature only if that is pending.
    have pendingCt {ct : UInt16} (carried : (State.valuesCommand settings b t).ct = some ct) :
        State.pendingValue 0 t.colorTemp t.lights = some ct ∧
          (State.pendingValue 0 b.brightness b.lights = none ∨
            b.lights.value = t.lights.value) := by
      simp only [State.valuesCommand] at carried
      split at carried
      · next together => exact ⟨carried, together⟩
      · cases carried
    refine ⟨b, t, hb, ht, listed, ?_, carries, rfl, ?_, ?_, ?_⟩
    · intro kind g known
      cases empty : g.lights.isEmpty with
      | true => exact .inl rfl
      | false => exact .inr (State.clean_of_planMembership_none (memberships kind) known empty)
    · intro bri pending
      obtain ⟨c, wants⟩ := Dial.brightness.exists_change_of_pending hb pending
      obtain ⟨dirty, some, held, -⟩ := State.pendingValue_eq_some_iff.1 pending
      exact ⟨Dial.brightness_wanted_mem wants, held, dirty, some⟩
    · intro ct carried
      obtain ⟨pending, -⟩ := pendingCt carried
      obtain ⟨c, wants⟩ := Dial.colorTemp.exists_change_of_pending ht pending
      obtain ⟨dirty, some, held, -⟩ := State.pendingValue_eq_some_iff.1 pending
      exact ⟨Dial.colorTemp_wanted_mem wants, held, dirty, some⟩
    · intro bri ct
      obtain ⟨value, carried⟩ := Option.isSome_iff_exists.1 ct
      rcases (pendingCt carried).2 with nothing | same
      · exact absurd nothing (Option.isSome_iff_ne_none.1 bri)
      · exact same
  · intro unknown writes
    rcases State.ready_of_write planned writes with off | ready
    · exact off
    · rw [State.isReady, Bool.and_eq_true] at ready
      rcases unknown with nothing | nothing
      · rw [nothing] at ready
        cases ready.1
      · rw [nothing] at ready
        cases ready.2

/-- A brightness of 1 is sent as 3, to a group whose only light is confirmed. -/
theorem values_planned_safely_of_low_brightness :
    let settings := { SyncSettings.manual with brightnessGroup := "A", temperatureGroup := "A" }
    let s := ((new settings .brief).run (oneLight ++ [.change true (.setBrightness 1)])).state
    let command : Command := ⟨none, some 3, none, none⟩
    s.plan settings = some (.values "/groups/1/action" command) ∧
      ∃ b t, s.group? .brightness = some b ∧ s.group? .temperature = some t ∧
        SafeValues s b t command := by
  intro settings s command
  have planned : s.plan settings = some (.values "/groups/1/action" command) := by decide +kernel
  exact ⟨planned, (values_planned_safely settings _ _ _ planned).1 _ command rfl⟩

end Scene
end Reconciler
end LightSync
