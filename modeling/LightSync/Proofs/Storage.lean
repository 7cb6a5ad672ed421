import LightSync.Proofs.Confirmation
import LightSync.Proofs.Hub

/-!
# What is clean is stored

With a faithful bridge, a managed group whose lights are clean and not empty has them stored on the
bridge, through all refusals, lost replies and changes. A write may change what is stored whether
its reply arrives or not, but while it is under way the lights of its group are dirty.

## Main definitions

- `State.Sound`: what is clean is stored
- `Linked`: a reconciler that is driven, and the bridge that it talks to
- `Linked.Undisturbed`: nobody else edits the groups of the bridge
-/

namespace LightSync.Reconciler

open Bridge

namespace State

variable {s t : State} {settings : SyncSettings} {kind : GroupKind} {g g' : Group}
  {stored stored' : String → NameSet}

/-- The lights of a managed group are stored if they are clean and not empty. Managed groups at
different places have different paths, and none is without values. -/
structure Sound (s : State) (stored : String → NameSet) : Prop where
  distinct : ∀ kind other g g', s.group? kind = some g → s.group? other = some g' →
    g.path = g'.path → s.place kind = s.place other
  lights : ∀ kind g, s.group? kind = some g → g.lights.dirty = false → g.lights.isEmpty = false →
    g.lights.value = some (stored g.path)
  values : ∀ kind g, s.group? kind = some g →
    g.brightness.value.isSome = true ∧ g.colorTemp.value.isSome = true

theorem group?_of_place_eq {other : GroupKind} (h : s.place kind = s.place other) :
    s.group? kind = s.group? other := by
  rw [group?, group?, h]

theorem Sound.congr (h : s.Sound stored) (same : s.unclaimed = t.unclaimed) : t.Sound stored where
  distinct := by simpa only [group?_congr same, place_congr same] using h.distinct
  lights := by simpa only [group?_congr same] using h.lights
  values := by simpa only [group?_congr same] using h.values

theorem Sound.rewanted (h : s.Sound stored) (rewanted : s.Rewanted t) : t.Sound stored where
  distinct kind other g g' found found' same := by
    obtain ⟨g₀, before, anew⟩ := rewanted.group_of_after found
    obtain ⟨g₀', before', anew'⟩ := rewanted.group_of_after found'
    rw [rewanted.place, rewanted.place]
    refine h.distinct kind other g₀ g₀' before before' ?_
    rw [← Group.path_eq_of_number_eq anew.number, same, Group.path_eq_of_number_eq anew'.number]
  lights kind g found clean wanted := by
    obtain ⟨g₀, before, anew⟩ := rewanted.group_of_after found
    rcases anew.lights with same | ⟨dirty, -⟩
    · rw [same] at clean wanted ⊢
      rw [Group.path_eq_of_number_eq anew.number]
      exact h.lights kind g₀ before clean wanted
    · exact nomatch clean.symm.trans dirty
  values kind g found := by
    obtain ⟨g₀, before, anew⟩ := rewanted.group_of_after found
    obtain ⟨bri, ct⟩ := h.values kind g₀ before
    exact ⟨anew.brightness.value_isSome bri, anew.colorTemp.value_isSome ct⟩

theorem sound_empty (stored : String → NameSet) : empty.Sound stored := by
  have unknown (kind : GroupKind) : empty.group? kind = none := by cases kind <;> rfl
  constructor
  · intro kind _ _ _ found
    exact nomatch (unknown kind).symm.trans found
  · intro kind _ found
    exact nomatch (unknown kind).symm.trans found
  · intro kind _ found
    exact nomatch (unknown kind).symm.trans found

/-! ## Updates -/

/-- An update that does not list the groups keeps them, with their numbers. -/
theorem group_of_update {u : Update} (h : ∀ groups, u ≠ .groups groups)
    (after : (s.update settings u).group? kind = some g') :
    ∃ g, s.group? kind = some g ∧ g'.number = g.number := by
  have known : ∃ g, s.group? kind = some g := by
    cases u with
    | groups groups => exact absurd rfl (h groups)
    | allOff =>
      rw [group?_update_allOff, Option.map_eq_some_iff] at after
      exact ⟨after.choose, after.choose_spec.1⟩
    | lights => exact ⟨g', group?_update_lights.symm.trans after⟩
    | membership =>
      rw [group?_update_membership, Option.map_eq_some_iff] at after
      exact ⟨after.choose, after.choose_spec.1⟩
    | values =>
      rw [group?_update_values, Option.map_eq_some_iff] at after
      exact ⟨after.choose, after.choose_spec.1⟩
  obtain ⟨g, before⟩ := known
  refine ⟨g, before, ?_⟩
  rcases group_update_cases before after with
    ⟨-, rfl⟩ | rfl | ⟨groups, _, same, -⟩ | ⟨_, _, -, rfl⟩ | ⟨_, _, _, _, -, rfl, -⟩
  · rfl
  · rfl
  · exact absurd same (h groups)
  · rfl
  · rfl

/-- Groups that were listed are told apart by their paths. -/
theorem distinct_of_listed {groups : List Group} (once : (groups.map (·.number)).Nodup)
    {other : GroupKind} (found : (s.update settings (.groups groups)).group? kind = some g)
    (found' : (s.update settings (.groups groups)).group? other = some g')
    (same : g.path = g'.path) :
    (s.update settings (.groups groups)).place kind =
      (s.update settings (.groups groups)).place other := by
  have place (kind : GroupKind) : (s.update settings (.groups groups)).place kind =
      groups.findIdx? (·.name = settings.groupName kind) := by
    cases kind <;> rfl
  have listed (kind : GroupKind) (g : Group)
      (h : (s.update settings (.groups groups)).group? kind = some g) :
      ∃ i : Nat, groups.findIdx? (·.name = settings.groupName kind) = some i ∧
        (groups.map (·.number))[i]? = some g.number := by
    rw [group?_update_groups, List.find?_eq_bind_findIdx?_getElem?, Option.map_eq_some_iff] at h
    obtain ⟨g₀, found, rfl⟩ := h
    obtain ⟨i, here, entry⟩ := Option.bind_eq_some_iff.1 found
    exact ⟨i, here, by rw [List.getElem?_map, entry]; rfl⟩
  obtain ⟨i, here, number⟩ := listed kind g found
  obtain ⟨j, here', number'⟩ := listed other g' found'
  have numbers : g.number = g'.number := Group.number_eq_of_path_eq same
  rw [place, place, here, here', Option.some.injEq]
  -- The numbers of a listing differ, so equal ones stand at the same place.
  have bound := (List.getElem?_eq_some_iff.1 number).1
  exact (List.getElem?_inj bound once).1 (by rw [number, number', numbers])

/-- What is stored may change for dirty lights. -/
theorem Sound.store (h : s.Sound stored) (kept : ∀ kind g, s.group? kind = some g →
    g.lights.dirty = true ∨ stored' g.path = stored g.path) : s.Sound stored' where
  distinct := h.distinct
  lights kind g found clean wanted := by
    rcases kept kind g found with dirty | same
    · exact nomatch clean.symm.trans dirty
    · rw [same]
      exact h.lights kind g found clean wanted
  values := h.values

/-- Groups that were just listed have nothing clean. -/
theorem sound_of_listed {groups : List Group} (once : (groups.map (·.number)).Nodup)
    (stored : String → NameSet) : (s.update settings (.groups groups)).Sound stored := by
  have fresh (kind : GroupKind) (g : Group)
      (found : (s.update settings (.groups groups)).group? kind = some g) :
      ∃ listed : Group, listed.resetTracking = g := by
    rw [group?_update_groups, Option.map_eq_some_iff] at found
    obtain ⟨listed, -, same⟩ := found
    exact ⟨listed, same⟩
  constructor
  · intro kind other g g'
    exact distinct_of_listed once
  · intro kind g found clean wanted
    obtain ⟨listed, rfl⟩ := fresh kind g found
    cases clean
  · intro kind g found
    obtain ⟨listed, rfl⟩ := fresh kind g found
    exact ⟨rfl, rfl⟩

/-- An update that does not list the groups cleans only lights that are stored. -/
theorem Sound.update_of_known {u : Update} (h : s.Sound stored)
    (known : ∀ groups, u ≠ .groups groups)
    (honest : ∀ other path lights, u = .membership other path (some lights) →
      stored path = lights) : (s.update settings u).Sound stored where
  distinct kind other g g' found found' same := by
    obtain ⟨g₀, before, number⟩ := group_of_update known found
    obtain ⟨g₀', before', number'⟩ := group_of_update known found'
    rw [place_update known, place_update known]
    refine h.distinct kind other g₀ g₀' before before' ?_
    rw [← Group.path_eq_of_number_eq number, same, Group.path_eq_of_number_eq number']
  lights kind g' found clean wanted := by
    obtain ⟨g, before, -⟩ := group_of_update known found
    have still := h.lights kind g before
    rcases group_update_cases before found with
      ⟨-, rfl⟩ | rfl | ⟨groups, _, is, -⟩ | ⟨other, confirmed, rfl, rfl⟩ | ⟨_, _, _, _, -, rfl, -⟩
    · cases wanted
    · exact still clean wanted
    · exact absurd is (known groups)
    -- Dirty lights are cleaned only by what the bridge stored; clean ones keep their value.
    · have value := Cell.value_confirm confirmed g.lights
      cases dirty : g.lights.dirty with
      | true =>
        obtain ⟨lights, rfl, held⟩ := Cell.value_of_confirm_clean dirty clean
        rw [value, held]
        exact congrArg some (honest other g.path lights rfl).symm
      | false =>
        rw [Cell.isEmpty, Cell.members, value] at wanted
        exact value.trans (still dirty wanted)
    · exact still clean wanted
  values kind g' found := by
    obtain ⟨g, before, -⟩ := group_of_update known found
    obtain ⟨bri, ct⟩ := h.values kind g before
    have confirmed {α : Type} [DecidableEq α] {c c' : Cell α} (held : c.value.isSome = true)
        {value : Option α} (is : c' = c ∨ c' = confirm value c) : c'.value.isSome = true := by
      rcases is with rfl | rfl
      · exact held
      · exact (congrArg Option.isSome (Cell.value_confirm value c)).trans held
    rcases group_update_cases before found with
      ⟨-, rfl⟩ | rfl | ⟨groups, _, is, -⟩ | ⟨_, _, -, rfl⟩ |
      ⟨_, _, brightness, colorTemp, -, rfl, brightnessIs, colorTempIs⟩
    · exact ⟨bri, ct⟩
    · exact ⟨bri, ct⟩
    · exact absurd is (known groups)
    · exact ⟨bri, ct⟩
    · exact ⟨confirmed bri brightnessIs, confirmed ct colorTempIs⟩

theorem Sound.update {u : Update} (h : s.Sound stored)
    (once : ∀ groups, u = .groups groups → (groups.map (·.number)).Nodup)
    (honest : ∀ other path lights, u = .membership other path (some lights) →
      stored path = lights) : (s.update settings u).Sound stored := by
  by_cases listing : ∃ groups, u = .groups groups
  · obtain ⟨groups, rfl⟩ := listing
    exact sound_of_listed (once groups rfl) stored
  · exact h.update_of_known (fun groups is => listing ⟨groups, is⟩) honest

/-- What a request under way may store concerns only dirty lights. -/
theorem Sound.kept_of_carries (h : s.Sound stored) {plan : Plan} (carries : s.Carries plan)
    (only : ∀ path, stored' path = stored path ∨
      ∃ kind lights, plan = .membership kind path lights)
    (found : s.group? kind = some g) : g.lights.dirty = true ∨ stored' g.path = stored g.path := by
  rcases only g.path with same | ⟨other, lights, rfl⟩
  · exact .inr same
  · obtain ⟨g', found', path, dirty⟩ := carries
    have here := group?_of_place_eq (h.distinct other kind g' g found' found path)
    rw [found, found', Option.some.injEq] at here
    exact .inl (here ▸ dirty)

end State

/-- What a faithful bridge says makes a sound update. -/
theorem Hub.Faithful.sound_update {β : Type} {hub : Hub β} (faithful : hub.Faithful) {b : β}
    {s : State} {settings : SyncSettings} {plan : Plan} {u : Update}
    (h : s.Sound (hub.stored b)) (carries : s.Carries plan)
    (reads : plan.Reads (hub.take b plan.request).2 u) :
    (s.update settings u).Sound (hub.stored (hub.take b plan.request).1) := by
  -- While the lights that were sent are still dirty, the bridge may store what it likes.
  have now : s.Sound (hub.stored (hub.take b plan.request).1) :=
    h.store fun kind g => h.kept_of_carries carries (faithful.stored b plan)
  refine now.update ?_ ?_
  · rintro groups rfl
    generalize hub.take b plan.request = taken at reads
    obtain ⟨b', answer⟩ := taken
    cases reads with
    | groups ok listed => exact nodup_of_listing (fun _ _ _ => Group.number_of_ofRecord?) listed
  · rintro kind path lights rfl
    obtain ⟨response, answered⟩ := reads.ok
    rw [answered] at reads
    generalize confirmed : some lights = c at reads
    cases reads with
    | membership _ _ sent ok =>
      obtain ⟨names, confirms, rfl⟩ := confirmedMembership_eq_some_iff.1 confirmed.symm
      exact faithful.honest b (.membership kind path _) response names answered confirms

/-! ## Reconciler and bridge together -/

/-- A reconciler that is driven, and the bridge that it talks to. -/
structure Linked (β : Type) where
  scene : Scene
  memory : β

namespace Linked

variable {β : Type}

inductive Event (β : Type) where
  | change (canRun : Bool) (c : Change)
  | go (d : Driver)
  /-- The bridge takes the request of a driver, and answers it or loses its reply. -/
  | answer (d : Driver) (canRun : Bool) (heard : List Change)
  /-- Something else happens to the bridge. -/
  | elsewhere (memory : β)

/-- The pair after an event. -/
def next (hub : Hub β) (w : Linked β) : Event β → Linked β
  | .change canRun c => { w with scene := w.scene.next (.change canRun c) }
  | .go d => { w with scene := w.scene.next (.go d) }
  | .answer d canRun heard =>
    match w.scene.underway d with
    | none => w
    | some plan =>
      let taken := hub.take w.memory plan.request
      ⟨w.scene.next (.answer d taken.2 canRun heard), taken.1⟩
  | .elsewhere memory => { w with memory }

/-- Steps are made one at a time, and nobody else edits the groups of the bridge. -/
def Undisturbed (hub : Hub β) (w : Linked β) : Event β → Prop
  | .go d => w.scene.OneAtATime (.go d)
  | .elsewhere memory => hub.stored memory = hub.stored w.memory
  | _ => True

/-- What is clean is stored, also while a request is under way. -/
def Sound (hub : Hub β) (w : Linked β) : Prop :=
  w.scene.InFlight ∧ w.scene.state.Sound (hub.stored w.memory)

variable {hub : Hub β} {w : Linked β}

theorem sound_new (settings : SyncSettings) (wording : Wording) (memory : β) :
    Sound hub ⟨.new settings wording, memory⟩ :=
  ⟨Scene.inFlight_new settings wording, State.sound_empty (hub.stored memory)⟩

theorem sound_next (faithful : hub.Faithful) {e : Event β} (h : Sound hub w)
    (ok : Undisturbed hub w e) : Sound hub (next hub w e) := by
  obtain ⟨inFlight, sound⟩ := h
  cases e with
  | change canRun c =>
    have calm : w.scene.OneAtATime (.change canRun c) := fun _ other => nomatch other
    refine ⟨Scene.inFlight_next inFlight calm, ?_⟩
    exact (sound.rewanted (w.scene.state.rewanted_change c)).congr
      (w.scene.unclaimed_next (.change canRun c)).symm
  | go d =>
    exact ⟨Scene.inFlight_next inFlight ok, sound.congr (w.scene.unclaimed_next (.go d)).symm⟩
  | answer d canRun heard =>
    cases waiting : w.scene.underway d with
    | none =>
      simp only [next, waiting]
      exact ⟨inFlight, sound⟩
    | some plan =>
      have carries := (inFlight d plan waiting).1
      simp only [next, waiting]
      refine ⟨Scene.inFlight_next inFlight fun _ other => (nomatch other), ?_⟩
      rcases w.scene.next_cases (.answer d (hub.take w.memory plan.request).2 canRun heard) with
        rewanted | ⟨_, _, _, _, _, u, same, waiting', reads, rewanted⟩
      -- The bridge may have stored what was sent although its answer changes nothing here.
      · refine State.Sound.rewanted (sound.store fun kind g => ?_) rewanted
        exact sound.kept_of_carries carries (faithful.stored w.memory plan)
      · cases same
        cases waiting.symm.trans waiting'
        exact (faithful.sound_update sound carries reads).rewanted rewanted
  | elsewhere memory =>
    have same : hub.stored memory = hub.stored w.memory := ok
    refine ⟨inFlight, ?_⟩
    simp only [next, same]
    exact sound

/-- A single driver, and nothing else that happens to the bridge. -/
theorem undisturbed_of_onlyDriver {d : Driver} {w : Linked β} {events : List (Event β)}
    (h : w.scene.OnlyDriver d) (mine : ∀ d', .go d' ∈ events → d' = d)
    (calm : ∀ memory, .elsewhere memory ∉ events) :
    Run.Admitted (next hub) (Undisturbed hub) w events := by
  induction events generalizing w with
  | nil => trivial
  | cons e rest ih =>
    have onwards (w' : Linked β) (only : w'.scene.OnlyDriver d) :
        Run.Admitted (next hub) (Undisturbed hub) w' rest :=
      ih only (fun d' mem => mine d' (List.mem_cons_of_mem _ mem))
        fun memory mem => calm memory (List.mem_cons_of_mem _ mem)
    cases e with
    | change canRun c =>
      refine ⟨trivial, onwards _ (Scene.onlyDriver_next (e := .change canRun c) h ?_)⟩
      exact fun _ other => nomatch other
    | go d' =>
      have me : d' = d := mine d' (List.mem_cons_self ..)
      refine ⟨?_, onwards _ (Scene.onlyDriver_next (e := .go d') h ?_)⟩
      · intro d'' same _ other busy
        cases same
        exact (h other busy).trans me.symm
      · intro d'' same
        cases same
        exact me
    | answer d' canRun heard =>
      refine ⟨trivial, onwards _ ?_⟩
      simp only [next]
      split
      · exact h
      · exact Scene.onlyDriver_next h fun _ other => nomatch other
    | elsewhere memory => exact absurd (List.mem_cons_self ..) (calm memory)

theorem sound_run (faithful : hub.Faithful) {settings : SyncSettings} {wording : Wording}
    {memory : β} {events : List (Event β)}
    (undisturbed :
      Run.Admitted (next hub) (Undisturbed hub) ⟨.new settings wording, memory⟩ events) :
    Sound hub (Run.after (next hub) ⟨.new settings wording, memory⟩ events) :=
  Run.invariant (fun _ _ => sound_next faithful) undisturbed (sound_new settings wording memory)

end Linked
end LightSync.Reconciler
