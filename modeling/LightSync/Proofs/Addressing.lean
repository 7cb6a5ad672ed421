import LightSync.Proofs.FailedStep
import LightSync.Proofs.Fading
import LightSync.Proofs.Mirroring

/-!
# Which group an acknowledgement is for

Values are sent to the path of one group, and the groups may be listed again before the reply
arrives. The reply is taken into the groups that are managed by then, whatever path it names. So it
is for the group that the values were sent to as long as no listing that is taken in meanwhile shows
a managed group under another number; after one that does, it may clean the cell of a group that
never got the value.

## Main definitions

- `Response.AcknowledgesOnly`: a response acknowledges nothing but what was sent
- `ListedAs`: every listing shows the managed groups under certain numbers
- `CleansAddressed`: only cells of the group that the values were sent to are cleaned
-/

namespace LightSync

namespace Bridge

/-- The values that a response acknowledges at a path are among those that a command carries. -/
structure Response.AcknowledgesOnly (response : Response) (path : String) (command : Command) :
    Prop where
  bri : ∀ value, response.Confirms (path ++ "/bri") value → command.bri.isSome = true
  ct : ∀ value, response.Confirms (path ++ "/ct") value → command.ct.isSome = true

/-- Values go to the brightness group if they carry a brightness, and to the temperature group
otherwise. -/
def Command.addressee (command : Command) : GroupKind :=
  if command.bri.isSome then .brightness else .temperature

end Bridge

namespace Reconciler

open Bridge

/-! ## Where values are sent -/

namespace State

variable {s t : State} {settings : SyncSettings} {path : String} {command : Command}

theorem address_of_plan (h : s.plan settings = some (.values path command)) :
    ∃ g, s.group? command.addressee = some g ∧ path = g.actionPath := by
  obtain ⟨-, -, -, values⟩ := values_of_plan h
  obtain ⟨b, t, hb, ht, same, -⟩ := planValues_cases values
  obtain ⟨rfl, rfl⟩ := Plan.values.inj same
  have bri : (valuesCommand settings b t).bri = pendingValue 0 b.brightness b.lights := rfl
  rw [Command.addressee, valuesPath, ← bri]
  by_cases carried : (valuesCommand settings b t).bri.isSome = true
  · rw [if_pos carried, if_pos carried]
    exact ⟨b, hb, rfl⟩
  · rw [if_neg carried, if_neg carried]
    exact ⟨t, ht, rfl⟩

/-! ## Numbers of the managed groups -/

/-- The number of a managed group. -/
def numberOf? (s : State) (kind : GroupKind) : Option String := s.viewOf kind (·.number)

/-- Every listing among the moves shows the managed groups under the numbers given. -/
def ListedAs (settings : SyncSettings) (numbers : GroupKind → Option String)
    (moves : List Move) : Prop :=
  ∀ groups, .update (.groups groups) ∈ moves → ∀ kind,
    (groups.find? (·.name = settings.groupName kind)).map (·.number) = numbers kind

theorem numberOf?_move {m : Move} (kind : GroupKind)
    (listed : ∀ groups, m = .update (.groups groups) →
      (groups.find? (·.name = settings.groupName kind)).map (·.number) = s.numberOf? kind) :
    (s.move settings m).numberOf? kind = s.numberOf? kind := by
  cases m with
  | change c => exact viewOf_change (fun _ _ edits g => (rewanted_edit edits g).number) s kind
  | update u =>
    cases u with
    | groups groups =>
      refine Eq.trans ?_ (listed groups rfl)
      rw [numberOf?, viewOf, move, group?_update_groups, Option.map_map]
      rfl
    | values bri ct =>
      rw [numberOf?, viewOf, move, group?_update_values, Option.map_map]
      rfl
    | _ => exact viewOf_update (fun _ _ => rfl) ⟨nofun, nofun⟩

/-- Moves keep the numbers of the managed groups if the listings do. -/
theorem numberOf?_moveAll {moves : List Move} (listed : ListedAs settings s.numberOf? moves)
    (kind : GroupKind) : (s.moveAll settings moves).numberOf? kind = s.numberOf? kind := by
  induction moves generalizing s with
  | nil => rfl
  | cons m rest ih =>
    have here (other : GroupKind) : (s.move settings m).numberOf? other = s.numberOf? other :=
      numberOf?_move other fun groups is => listed groups (is ▸ List.mem_cons_self ..) other
    refine (ih ?_).trans (here kind)
    intro groups mem other
    exact (listed groups (List.mem_cons_of_mem _ mem) other).trans (here other).symm

/-- A group that keeps its number keeps its path. -/
theorem actionPath_of_numberOf? {kind : GroupKind} {g : Group} (known : s.group? kind = some g)
    (same : t.numberOf? kind = s.numberOf? kind) :
    ∃ g', t.group? kind = some g' ∧ g'.actionPath = g.actionPath := by
  rw [numberOf?, numberOf?, viewOf, viewOf, known, Option.map_some] at same
  obtain ⟨g', found, number⟩ := Option.map_eq_some_iff.1 same
  exact ⟨g', found, Group.actionPath_eq_of_number_eq number⟩

end State

/-! ## What a reply cleans -/

/-- A reply to values that were sent to a path cleans no cells of a managed group but its
brightness, if it is the brightness group and the path is its own, and its color temperature, if it
is the temperature group and the path is its own or the one of the brightness group, where both
values were sent at once. -/
structure CleansAddressed (s : State) (path : String) (command : Command) (g g' : Group) :
    Prop where
  lights : g'.lights = g.lights
  brightness : g.brightness.dirty = true → g'.brightness.dirty = false →
    s.group? .brightness = some g ∧ path = g.actionPath
  colorTemp : g.colorTemp.dirty = true → g'.colorTemp.dirty = false →
    s.group? .temperature = some g ∧ (path = g.actionPath ∨
      command.bri.isSome = true ∧ command.ct.isSome = true ∧
      ∃ b, s.group? .brightness = some b ∧ path = b.actionPath)

theorem CleansAddressed.refl (s : State) (path : String) (command : Command) (g : Group) :
    CleansAddressed s path command g g := by
  refine ⟨rfl, ?_, ?_⟩
  · intro dirty clean
    rw [dirty] at clean
    cases clean
  · intro dirty clean
    rw [dirty] at clean
    cases clean

/-- Values that are confirmed clean the brightness of the brightness group, and the color
temperature of the temperature group. -/
theorem State.cleaned_by_values {s : State} {settings : SyncSettings} {bri : Option UInt8}
    {ct : Option UInt16} {kind : GroupKind} {g g' : Group} (before : s.group? kind = some g)
    (after : (s.update settings (.values bri ct)).group? kind = some g') :
    g'.lights = g.lights ∧
    (g.brightness.dirty = true → g'.brightness.dirty = false →
      s.group? .brightness = some g ∧ bri.isSome = true) ∧
    (g.colorTemp.dirty = true → g'.colorTemp.dirty = false →
      s.group? .temperature = some g ∧ ct.isSome = true) := by
  have here (other : GroupKind) (same : s.place kind = s.place other) :
      s.group? other = some g := by
    rw [← before, group?, group?, same]
  rw [group?_update_values, before, Option.map_some, Option.some.injEq] at after
  subst after
  refine ⟨rfl, ?_, ?_⟩
  · intro dirty clean
    by_cases same : s.place kind = s.place .brightness
    · simp only [if_pos same] at clean
      obtain ⟨value, rfl, -⟩ := Cell.value_of_confirm_clean dirty clean
      exact ⟨here _ same, rfl⟩
    · simp only [if_neg same] at clean
      rw [dirty] at clean
      cases clean
  · intro dirty clean
    by_cases same : s.place kind = s.place .temperature
    · simp only [if_pos same] at clean
      obtain ⟨value, rfl, -⟩ := Cell.value_of_confirm_clean dirty clean
      exact ⟨here _ same, rfl⟩
    · simp only [if_neg same] at clean
      rw [dirty] at clean
      cases clean

namespace Scene

variable {s : Scene} {d : Driver} {path : String} {command : Command} {response : Response}

/-- A reply to values is refused, or it is taken in as far as it acknowledges what was sent. -/
theorem settled_of_values (waiting : s.underway d = some (.values path command))
    (only : response.AcknowledgesOnly path command) (canRun : Bool) (heard : List Change) :
    let settled := s.settled (.answer d (.ok response) canRun heard)
    settled = s.state ∨
    ∃ bri ct, settled = s.state.update s.sync.settings (.values bri ct) ∧
      (bri.isSome = true → command.bri.isSome = true) ∧
      (ct.isSome = true → command.ct.isSome = true) := by
  intro settled
  simp only [settled, Scene.settled, waiting, State.take]
  cases outcome : (Plan.values path command).read (.ok response) with
  | error failure => exact .inl rfl
  | ok u =>
    refine .inr ?_
    cases Plan.read_eq_ok_iff.1 outcome with
    | values _ _ ok =>
      refine ⟨_, _, rfl, ?_, ?_⟩
      · intro confirmed
        obtain ⟨value, is⟩ := Option.isSome_iff_exists.1 confirmed
        exact only.bri _ (confirmedBrightness_eq_some_iff.1 is)
      · intro confirmed
        obtain ⟨value, is⟩ := Option.isSome_iff_exists.1 confirmed
        exact only.ct _ (confirmedColorTemp_eq_some_iff.1 is)

/-- The numbers of the managed groups are kept by every run whose listings keep them. -/
theorem numberOf?_run {events : List Event}
    (listed : State.ListedAs s.sync.settings s.state.numberOf? (s.movesOf events))
    (kind : GroupKind) : (s.run events).state.numberOf? kind = s.state.numberOf? kind :=
  (State.viewOf_congr (s.unclaimed_run events) kind).trans (State.numberOf?_moveAll listed kind)

/-- An acknowledgement of values cleans the cells of the group that they were sent to, and no other.
Whatever happens while the values are under way, by any number of drivers, changes and reloads: if
every listing that is taken in meanwhile shows the managed groups under the numbers they had when
the values were planned, and the bridge acknowledges nothing but what was sent, then the reply
leaves all groups that are not managed as they are, cleans the brightness only if its group is the
one that the values were sent to, and the color temperature only if its group is, or if both values
were sent at once to the brightness group. -/
theorem acknowledgement_cleans_addressed_group (idle : s.underway d = none)
    (begun : (s.next (.go d)).underway d = some (.values path command)) (during : List Event)
    (waiting : (s.run (.go d :: during)).underway d = some (.values path command))
    (listed : State.ListedAs s.sync.settings s.state.numberOf? (s.movesOf (.go d :: during)))
    (only : response.AcknowledgesOnly path command) (canRun : Bool) (heard : List Change) :
    let before := s.run (.go d :: during)
    let after := before.next (.answer d (.ok response) canRun heard)
    before.state.KeepsOthers after.state ∧
    ∀ kind g g', before.state.group? kind = some g → after.state.group? kind = some g' →
      CleansAddressed before.state path command g g' := by
  intro before after
  -- The path is still the one of the group that the values were planned for.
  have address : ∃ g, before.state.group? command.addressee = some g ∧
      path = g.actionPath := by
    obtain ⟨g, known, rfl⟩ := State.address_of_plan (go_of_begun idle begun).1
    obtain ⟨g', found, same⟩ := State.actionPath_of_numberOf? known (numberOf?_run listed _)
    exact ⟨g', found, same.symm⟩
  have settled := (before.unclaimed_next (.answer d (.ok response) canRun heard)).symm
  rcases settled_of_values waiting only canRun heard with same | ⟨bri, ct, taken, sentBri, sentCt⟩
  · rw [same] at settled
    refine ⟨(State.KeepsOthers.refl before.state).congr settled, ?_⟩
    intro kind g g' known found
    rw [← State.group?_congr settled kind, known] at found
    cases found
    exact .refl ..
  · rw [taken] at settled
    refine ⟨?_, ?_⟩
    · have others : before.state.KeepsOthers
          (before.state.update before.sync.settings (.values bri ct)) :=
        State.keepsOthers_update (fun _ same => by cases same) ..
      exact others.congr settled
    intro kind g g' known found
    rw [← State.group?_congr settled kind] at found
    obtain ⟨lights, brightness, colorTemp⟩ := State.cleaned_by_values known found
    obtain ⟨g₀, addressed, there⟩ := address
    refine ⟨lights, ?_, ?_⟩
    · intro dirty clean
      obtain ⟨mine, confirmed⟩ := brightness dirty clean
      rw [Command.addressee, if_pos (sentBri confirmed), mine] at addressed
      cases addressed
      exact ⟨mine, there⟩
    · intro dirty clean
      obtain ⟨mine, confirmed⟩ := colorTemp dirty clean
      refine ⟨mine, ?_⟩
      by_cases both : command.bri.isSome = true
      · rw [Command.addressee, if_pos both] at addressed
        exact .inr ⟨both, sentCt confirmed, g₀, addressed, there⟩
      · rw [Command.addressee, if_neg both, mine] at addressed
        cases addressed
        exact .inl there

/-- While values are under way the groups are listed again, the only one of them under a number
that is given, and the same brightness is wanted anew. -/
def relistedAs (number : String) : List Event := [
  .change true .requestReload,
  .go (.hand 1), .answer (.hand 1) (.ok ⟨200, .obj []⟩) true [],
  .go (.hand 1), .answer (.hand 1) (.ok ⟨200, .obj [(number, .obj [("name", .str "A")])]⟩) true [],
  .change true (.addLights .brightness ["1"]),
  .change true (.setBrightness 100)]

/-- The reply to a brightness of 100 that was sent to group 1. -/
def repliedByGroup1 : Response :=
  ⟨200, .arr [.obj [("success", .obj [("/groups/1/action/bri", .ofNat 100)])]]⟩

theorem repliedByGroup1_acknowledgesOnly (carried : command.bri.isSome = true) :
    repliedByGroup1.AcknowledgesOnly "/groups/1/action" command := by
  refine ⟨fun _ _ => carried, ?_⟩
  intro value confirms
  rw [← acknowledged_replyOf] at confirms
  have nothing : (replyOf repliedByGroup1).acknowledged ("/groups/1/action" ++ "/ct") = none := by
    decide +kernel
  exact nomatch confirms.symm.trans nothing

/-- Group 1 is listed again under its number, and takes in the brightness that was sent to it. -/
theorem acknowledgement_cleans_addressed_group_of_relisted :
    let settings := { SyncSettings.manual with brightnessGroup := "A", temperatureGroup := "A" }
    let s := (new settings .brief).run (oneLight ++ [.change true (.setBrightness 100)])
    let command : Command := ⟨none, some 100, none, some settings.majorTransition⟩
    let before := s.run (.go (.hand 0) :: relistedAs "1")
    let after := before.next (.answer (.hand 0) (.ok repliedByGroup1) true [])
    let g : Group :=
      ⟨"1", "A", ⟨some (.ofList ["1"]), true, false⟩, ⟨some 100, true, true⟩, ⟨some 0, true, false⟩⟩
    before.state.group? .brightness = some g ∧
      after.state.group? .brightness = some { g with brightness := g.brightness.clean } ∧
      CleansAddressed before.state "/groups/1/action" command g
        { g with brightness := g.brightness.clean } := by
  intro settings s command before after g
  have known : before.state.group? .brightness = some g := by decide +kernel
  have cleaned : after.state.group? .brightness =
      some { g with brightness := g.brightness.clean } := by decide +kernel
  have moves : s.movesOf (.go (.hand 0) :: relistedAs "1") = [
      .change .requestReload, .update (.lights []), .update (.groups [.listed "1" "A" ∅]),
      .change (.addLights .brightness ["1"]), .change (.setBrightness 100)] := by
    decide +kernel
  have listed : State.ListedAs s.sync.settings s.state.numberOf?
      (s.movesOf (.go (.hand 0) :: relistedAs "1")) := by
    intro groups mem kind
    rw [moves] at mem
    obtain rfl : groups = [.listed "1" "A" ∅] := by simpa using mem
    cases kind <;> decide +kernel
  have idle : s.underway (.hand 0) = none := by decide +kernel
  have begun : (s.next (.go (.hand 0))).underway (.hand 0) =
      some (.values "/groups/1/action" command) := by decide +kernel
  have waiting : before.underway (.hand 0) = some (.values "/groups/1/action" command) := by
    decide +kernel
  exact ⟨known, cleaned, (acknowledgement_cleans_addressed_group idle begun _ waiting listed
    (repliedByGroup1_acknowledgesOnly rfl) true []).2 .brightness _ _ known cleaned⟩

/-- The reply to values that were sent to group 1 cleans the brightness of group 7, under which the
group of that name is listed by then, though group 7 never got the value. -/
theorem acknowledgement_cleans_renumbered_group :
    let settings := { SyncSettings.manual with brightnessGroup := "A", temperatureGroup := "A" }
    let s := (new settings .brief).run (oneLight ++ [.change true (.setBrightness 100)])
    let command : Command := ⟨none, some 100, none, some settings.majorTransition⟩
    let before := s.run (.go (.hand 0) :: relistedAs "7")
    let after := before.next (.answer (.hand 0) (.ok repliedByGroup1) true [])
    let g : Group :=
      ⟨"7", "A", ⟨some (.ofList ["1"]), true, false⟩, ⟨some 100, true, true⟩, ⟨some 0, true, false⟩⟩
    before.underway (.hand 0) = some (.values "/groups/1/action" command) ∧
      repliedByGroup1.AcknowledgesOnly "/groups/1/action" command ∧
      before.state.group? .brightness = some g ∧ g.brightness.dirty = true ∧
      after.state.group? .brightness = some { g with brightness := g.brightness.clean } ∧
      ¬ CleansAddressed before.state "/groups/1/action" command g
        { g with brightness := g.brightness.clean } := by
  intro settings s command before after g
  have waiting : before.underway (.hand 0) = some (.values "/groups/1/action" command) := by
    decide +kernel
  have known : before.state.group? .brightness = some g := by decide +kernel
  have cleaned : after.state.group? .brightness =
      some { g with brightness := g.brightness.clean } := by decide +kernel
  refine ⟨waiting, repliedByGroup1_acknowledgesOnly rfl, known, rfl, cleaned, ?_⟩
  intro cleans
  have there : "/groups/1/action" = g.actionPath := (cleans.brightness rfl rfl).2
  exact absurd there (by decide +kernel)

end Scene
end Reconciler
end LightSync
