import LightSync.Proofs.Delivery
import LightSync.Proofs.Moves
import LightSync.Proofs.Storage

/-!
# Groups that are only listed

Only the two managed groups are ever written. With a candid bridge whose groups nobody else edits,
every other group is kept as it is stored, from one listing to the next.

## Main definitions

- `State.KeepsOthers`: the groups that are not managed stay as they are
- `State.Mirrors`: they are as they are stored
- `Linked.Mirrors`: the state mirrors the bridge, and what is clean is stored
-/

namespace LightSync.Reconciler

open Bridge

namespace State

variable {s t : State} {settings : SyncSettings} {stored stored' : String → NameSet}

theorem map_allGroups {β : Type} (view : Group → β) (s : State) :
    s.allGroups.map view = (s.groups.map (·.map view)).getD [] := by
  unfold allGroups
  cases s.groups <;> rfl

theorem getElem?_of_group? {kind : GroupKind} {g : Group} (h : s.group? kind = some g) :
    ∃ i : Nat, s.place kind = some i ∧ s.allGroups[i]? = some g := by
  obtain ⟨i, here, rest⟩ := Option.bind_eq_some_iff.1 h
  obtain ⟨groups, listed, entry⟩ := Option.bind_eq_some_iff.1 rest
  exact ⟨i, here, by rw [allGroups, listed]; exact entry⟩

theorem group?_of_getElem? {kind : GroupKind} {i : Nat} {g : Group} (here : s.place kind = some i)
    (entry : s.allGroups[i]? = some g) : s.group? kind = some g := by
  unfold allGroups at entry
  rw [group?, here]
  cases listed : s.groups with
  | none =>
    rw [listed] at entry
    cases entry
  | some groups =>
    rw [listed] at entry
    exact entry

/-! ## What is kept of the other groups -/

/-- All groups stay where they are, and those that are not managed stay as they are. -/
structure KeepsOthers (s t : State) : Prop where
  place : ∀ kind, t.place kind = s.place kind
  numbers : t.allGroups.map (·.number) = s.allGroups.map (·.number)
  others : ∀ i : Nat, (∀ kind, s.place kind ≠ some i) → t.allGroups[i]? = s.allGroups[i]?

theorem KeepsOthers.refl (s : State) : s.KeepsOthers s := ⟨fun _ => rfl, rfl, fun _ _ => rfl⟩

theorem KeepsOthers.trans {a b c : State} (first : a.KeepsOthers b) (second : b.KeepsOthers c) :
    a.KeepsOthers c where
  place kind := (second.place kind).trans (first.place kind)
  numbers := second.numbers.trans first.numbers
  others i other :=
    (second.others i fun kind => first.place kind ▸ other kind).trans (first.others i other)

theorem KeepsOthers.of_eq (place : ∀ kind, t.place kind = s.place kind)
    (groups : t.groups = s.groups) : s.KeepsOthers t where
  place := place
  numbers := by rw [allGroups, groups, allGroups]
  others i _ := by rw [allGroups, groups, allGroups]

theorem KeepsOthers.congr {u : State} (h : s.KeepsOthers t) (same : t.unclaimed = u.unclaimed) :
    s.KeepsOthers u :=
  h.trans (.of_eq (fun kind => (place_congr same kind).symm) (groups_congr same).symm)

theorem keepsOthers_modifyGroup {f : Group → Group} (number : ∀ g, (f g).number = g.number)
    (s : State) (kind : GroupKind) : s.KeepsOthers (s.modifyGroup kind f) where
  place other := place_modifyGroup ..
  numbers := by rw [map_allGroups, view_modifyGroup number, map_allGroups]
  others i other := by
    unfold modifyGroup
    split
    · next place groups here listed =>
      have elsewhere : place ≠ i := fun same => other kind (same ▸ here)
      simp only [allGroups, Option.getD_some, listed, List.getElem?_modify, if_neg elsewhere]
      exact congrFun Option.map_id_fun' _
    · rfl

theorem keepsOthers_change (s : State) (c : Change) : s.KeepsOthers (s.change c).1 := by
  rcases s.change_cases c with ⟨kind, f, edits, made⟩ | ⟨same, -⟩ | ⟨-, -, request⟩
  · rw [made]
    exact keepsOthers_modifyGroup (fun g => (rewanted_edit edits g).number) s kind
  · rw [same]
    exact .refl s
  · refine .of_eq (fun kind => ?_) ?_
    · rcases request with ⟨fade, rfl⟩ | rfl | rfl <;> cases kind <;> rfl
    · rcases request with ⟨fade, rfl⟩ | rfl | rfl <;> rfl

theorem keepsOthers_update {u : Update} (known : ∀ groups, u ≠ .groups groups) (s : State)
    (settings : SyncSettings) : s.KeepsOthers (s.update settings u) := by
  cases u with
  | allOff =>
    have both := (keepsOthers_modifyGroup (f := Group.emptied) (fun _ => rfl) s .brightness).trans
      (keepsOthers_modifyGroup (f := Group.emptied) (fun _ => rfl) _ .temperature)
    exact both.trans (.of_eq (fun kind => by cases kind <;> rfl) rfl)
  | lights lights => exact .of_eq (fun kind => by cases kind <;> rfl) rfl
  | groups groups => exact absurd rfl (known groups)
  | membership kind path confirmed =>
    refine keepsOthers_modifyGroup (f := Group.confirmLights path confirmed) (fun g => ?_) s kind
    exact congrArg (·.1) (Group.values_confirmLights path confirmed g)
  | values bri ct =>
    refine (keepsOthers_modifyGroup (fun g => ?_) s .brightness).trans
      (keepsOthers_modifyGroup (fun g => ?_) _ .temperature)
    · rfl
    · rfl

/-! ## What is known of the other groups -/

/-- Every group that is not managed has the lights that are stored for it. -/
structure Mirrors (s : State) (stored : String → NameSet) : Prop where
  numbers : (s.allGroups.map (·.number)).Nodup
  others : ∀ (i : Nat) g, s.allGroups[i]? = some g → (∀ kind, s.place kind ≠ some i) →
    g.lights.value = some (stored g.path)

theorem Mirrors.keep (h : s.Mirrors stored) (kept : s.KeepsOthers t) : t.Mirrors stored where
  numbers := kept.numbers ▸ h.numbers
  others i g found other := by
    have before (kind : GroupKind) : s.place kind ≠ some i := kept.place kind ▸ other kind
    exact h.others i g ((kept.others i before).symm.trans found) before

theorem Mirrors.congr (h : s.Mirrors stored) (same : s.unclaimed = t.unclaimed) :
    t.Mirrors stored := h.keep ((KeepsOthers.refl s).congr same)

theorem mirrors_empty (stored : String → NameSet) : empty.Mirrors stored where
  numbers := List.nodup_nil
  others _ _ found := nomatch found

/-- A candid listing of the groups. -/
structure Shows (stored : String → NameSet) (groups : List Group) : Prop where
  numbers : (groups.map (·.number)).Nodup
  lights : ∀ g ∈ groups, g.lights.value = some (stored g.path)

/-- Groups that were just listed are as they were listed, but for the managed ones. -/
theorem getElem?_update_groups {groups : List Group} {i : Nat}
    (other : ∀ kind, (s.update settings (.groups groups)).place kind ≠ some i) :
    (s.update settings (.groups groups)).allGroups[i]? = groups[i]? := by
  let after := s.update settings (.groups groups)
  have listed : after.allGroups =
      resetManaged (resetManaged groups (after.place .brightness)) (after.place .temperature) := rfl
  rw [listed, getElem?_resetManaged, getElem?_resetManaged, if_neg (other .temperature),
    if_neg (other .brightness)]
  simp only [Option.map_id_fun, id_eq]

theorem map_update_groups {β : Type} {view : Group → β}
    (kept : ∀ g : Group, view g.resetTracking = view g) (groups : List Group) :
    (s.update settings (.groups groups)).allGroups.map view = groups.map view :=
  (map_resetManaged kept _ _).trans (map_resetManaged kept groups _)

theorem Shows.mirrors {groups : List Group} (h : Shows stored groups) :
    (s.update settings (.groups groups)).Mirrors stored where
  numbers := by
    rw [map_update_groups fun _ => rfl]
    exact h.numbers
  others i g found other := by
    rw [getElem?_update_groups other] at found
    exact h.lights g (List.mem_of_getElem? found)

theorem Mirrors.update {u : Update} (h : s.Mirrors stored)
    (shows : ∀ groups, u = .groups groups → Shows stored groups) :
    (s.update settings u).Mirrors stored := by
  by_cases listing : ∃ groups, u = .groups groups
  · obtain ⟨groups, rfl⟩ := listing
    exact (shows groups rfl).mirrors
  · exact h.keep (keepsOthers_update (fun groups is => listing ⟨groups, is⟩) s settings)

theorem Mirrors.moveAll {moves : List Move} (h : s.Mirrors stored)
    (shows : ∀ groups, .update (.groups groups) ∈ moves → Shows stored groups) :
    (s.moveAll settings moves).Mirrors stored := by
  induction moves generalizing s with
  | nil => exact h
  | cons m rest ih =>
    refine ih ?_ fun groups mem => shows groups (List.mem_cons_of_mem _ mem)
    cases m with
    | change c => exact h.keep (s.keepsOthers_change c)
    | update u =>
      refine h.update ?_
      rintro groups rfl
      exact shows groups (List.mem_cons_self ..)

/-- What a request under way may store concerns a managed group. -/
theorem Mirrors.store {plan : Plan} (h : s.Mirrors stored) (carries : s.Carries plan)
    (only : ∀ path, stored' path = stored path ∨
      ∃ kind lights, plan = .membership kind path lights) : s.Mirrors stored' where
  numbers := h.numbers
  others i g found other := by
    rcases only g.path with same | ⟨kind, lights, rfl⟩
    · exact same ▸ h.others i g found other
    · obtain ⟨g', known, path, -⟩ := carries
      obtain ⟨j, here, found'⟩ := getElem?_of_group? known
      -- Numbers tell groups apart, so this would be the managed one.
      have bound : i < (s.allGroups.map (·.number)).length := by
        rw [List.length_map]
        exact (List.getElem?_eq_some_iff.1 found).1
      have same : i = j := by
        refine (List.getElem?_inj bound h.numbers).1 ?_
        rw [List.getElem?_map, List.getElem?_map, found, found', Option.map_some, Option.map_some,
          Group.number_eq_of_path_eq path]
      exact absurd (same ▸ here) (other kind)

end State

/-! ## Reconciler and bridge together -/

namespace Linked

variable {β : Type} {hub : Hub β} {w : Linked β}

/-- The state mirrors the bridge, and what is clean is stored. -/
def Mirrors (hub : Hub β) (w : Linked β) : Prop :=
  Sound hub w ∧ w.scene.state.Mirrors (hub.stored w.memory)

theorem mirrors_new (settings : SyncSettings) (wording : Wording) (memory : β) :
    Mirrors hub ⟨.new settings wording, memory⟩ :=
  ⟨sound_new settings wording memory, State.mirrors_empty (hub.stored memory)⟩

/-- The groups that are read from the answer of a candid bridge are as they are stored. -/
theorem shows_of_reads (faithful : hub.Faithful) (candid : hub.Candid) {b : β} {plan : Plan}
    {groups : List Group} (reads : plan.Reads (hub.take b plan.request).2 (.groups groups)) :
    State.Shows (hub.stored (hub.take b plan.request).1) groups := by
  obtain ⟨response, answered⟩ := reads.ok
  rw [answered] at reads
  cases reads with
  | groups ok listed =>
    refine ⟨nodup_of_listing (fun _ _ _ => Group.number_of_ofRecord?) listed, ?_⟩
    intro g mem
    rcases faithful.stored b .loadGroups g.path with same | ⟨_, _, no⟩
    · rw [same]
      exact candid b response groups answered listed g mem
    · cases no

theorem mirrors_next (faithful : hub.Faithful) (candid : hub.Candid) {e : Event β}
    (h : Mirrors hub w) (ok : Undisturbed hub w e) : Mirrors hub (next hub w e) := by
  refine ⟨sound_next faithful h.1 ok, ?_⟩
  obtain ⟨⟨inFlight, -⟩, mirrors⟩ := h
  cases e with
  | change canRun c =>
    exact (mirrors.keep (w.scene.state.keepsOthers_change c)).congr
      (w.scene.unclaimed_next (.change canRun c)).symm
  | go d => exact mirrors.congr (w.scene.unclaimed_next (.go d)).symm
  | answer d canRun heard =>
    cases waiting : w.scene.underway d with
    | none =>
      simp only [next, waiting]
      exact mirrors
    | some plan =>
      let taken := hub.take w.memory plan.request
      have now : w.scene.state.Mirrors (hub.stored taken.1) :=
        mirrors.store (inFlight d plan waiting).1 (faithful.stored w.memory plan)
      simp only [next, waiting]
      refine State.Mirrors.congr ?_ (w.scene.unclaimed_next_moves _).symm
      refine now.moveAll fun groups mem => ?_
      have read : w.scene.readUpdate (.answer d taken.2 canRun heard) = some (.groups groups) := by
        simpa [Scene.moves] using mem
      exact shows_of_reads faithful candid ((Scene.readUpdate_eq_some_iff waiting).1 read)
  | elsewhere memory =>
    have same : hub.stored memory = hub.stored w.memory := ok
    simp only [next, same]
    exact mirrors

theorem mirrors_run (faithful : hub.Faithful) (candid : hub.Candid) {settings : SyncSettings}
    {wording : Wording} {memory : β} {events : List (Event β)}
    (undisturbed :
      Run.Admitted (next hub) (Undisturbed hub) ⟨.new settings wording, memory⟩ events) :
    Mirrors hub (Run.after (next hub) ⟨.new settings wording, memory⟩ events) :=
  Run.invariant (fun _ _ => mirrors_next faithful candid) undisturbed
    (mirrors_new settings wording memory)

end Linked
end LightSync.Reconciler
