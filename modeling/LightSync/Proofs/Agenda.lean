import LightSync.Proofs.Hub
import LightSync.Proofs.Planning
import LightSync.Proofs.Update

/-!
# The steps that are left

Every completed step takes itself off an agenda, and puts nothing on it: a pending all-off, the
lights, the groups, a membership and a value for each managed group. Listing the groups makes all
their cells dirty, so the agenda has the whole course of memberships and values behind it.

## Main definitions

- `State.writesLeft`, `State.agenda`: the steps that may be left
- `State.fullAgenda`: all that may ever be left
-/

namespace LightSync

/-! ## Confirmed cells -/

/-- A cell after a confirmation: it keeps its value, and does not become dirty. -/
def Cell.Settled {α : Type} (before after : Cell α) : Prop :=
  after.value = before.value ∧ (after.dirty = true → before.dirty = true)

theorem Cell.Settled.refl {α : Type} (c : Cell α) : c.Settled c := ⟨rfl, id⟩

theorem Cell.settled_confirm {α : Type} [DecidableEq α] (confirmed : Option α) (c : Cell α) :
    c.Settled (Reconciler.State.confirm confirmed c) := by
  refine ⟨Cell.value_confirm confirmed c, ?_⟩
  intro dirty
  cases confirmed with
  | none => exact dirty
  | some value =>
    by_cases same : c.value = some value
    · rw [Cell.confirm_eq_clean same] at dirty
      cases dirty
    · simpa only [Reconciler.State.confirm, Cell.acknowledge, if_neg same] using dirty

namespace Reconciler.State

open Bridge

variable {s t : State} {settings : SyncSettings} {kind : GroupKind} {plan : Plan} {u : Update}

/-! ## The agenda -/

/-- A step that is due, or nothing. -/
def dueStep (due : Bool) (step : Step) : List Step := if due then [step] else []

theorem dueStep_sublist {due due' : Bool} (h : due' = true → due = true) (step : Step) :
    (dueStep due' step).Sublist (dueStep due step) := by
  cases due' with
  | false => exact List.nil_sublist _
  | true =>
    cases h rfl
    exact List.Sublist.refl _

def membershipDue (s : State) (kind : GroupKind) : Bool := (s.planMembership kind).isSome

def brightnessDue (s : State) : Bool :=
  (s.group? .brightness).any fun g => (pendingValue 0 g.brightness g.lights).isSome

def temperatureDue (s : State) : Bool :=
  (s.group? .temperature).any fun g => (pendingValue 0 g.colorTemp g.lights).isSome

/-- The memberships and values that have to be sent. -/
def writesLeft (s : State) : List Step :=
  dueStep (s.membershipDue .brightness) .updateGroupMembership ++
  dueStep (s.membershipDue .temperature) .updateGroupMembership ++
  dueStep s.brightnessDue .updateGroupValues ++
  dueStep s.temperatureDue .updateGroupValues

/-- The memberships and values of both managed groups. -/
def allWrites : List Step :=
  [.updateGroupMembership, .updateGroupMembership, .updateGroupValues, .updateGroupValues]

/-- The steps that may be left. -/
def agenda (s : State) : List Step :=
  dueStep s.allOff.isSome .processCommands ++
  dueStep (s.lights.isNone || s.reloadLights) .loadLights ++
  if s.groups.isNone || s.reloadGroups then .loadGroups :: allWrites else s.writesLeft

/-- All that may ever be left. -/
def fullAgenda : List Step := .processCommands :: .loadLights :: .loadGroups :: allWrites

theorem writesLeft_sublist (s : State) : s.writesLeft.Sublist allWrites := by
  have one (due : Bool) (step : Step) : (dueStep due step).Sublist [step] :=
    dueStep_sublist (fun _ => rfl) step
  exact (((one _ _).append (one _ _)).append (one _ _)).append (one _ _)

theorem agenda_sublist (s : State) : s.agenda.Sublist fullAgenda := by
  have one (due : Bool) (step : Step) : (dueStep due step).Sublist [step] :=
    dueStep_sublist (fun _ => rfl) step
  have loads : (if s.groups.isNone || s.reloadGroups then Step.loadGroups :: allWrites
      else s.writesLeft).Sublist (.loadGroups :: allWrites) := by
    split
    · exact List.Sublist.refl _
    · exact (s.writesLeft_sublist).cons _
  exact ((one _ _).append (one _ _)).append loads

theorem agenda_congr (same : s.unclaimed = t.unclaimed) : s.agenda = t.agenda :=
  (congrArg agenda same :)

/-- What is left of the writes depends on the managed groups alone. -/
theorem writesLeft_congr (same : ∀ kind, s.group? kind = t.group? kind) :
    s.writesLeft = t.writesLeft := by
  simp only [writesLeft, membershipDue, planMembership, brightnessDue, temperatureDue, same]

/-! ## All-off and listings -/

theorem membershipDue_iff :
    s.membershipDue kind = true ↔
      ∃ g, s.group? kind = some g ∧ g.lights.dirty = true ∧ g.lights.isEmpty = false := by
  rw [membershipDue, Option.isSome_iff_exists]
  simp only [planMembership_eq_some_iff]
  constructor
  · rintro ⟨plan, g, found, dirty, wanted, -⟩
    exact ⟨g, found, dirty, wanted⟩
  · rintro ⟨g, found, dirty, wanted⟩
    exact ⟨_, g, found, dirty, wanted, rfl⟩

theorem pendingValue_isSome_iff {α : Type} [DecidableEq α] {zero : α} {c : Cell α}
    {lights : Cell NameSet} :
    (pendingValue zero c lights).isSome = true ↔
      c.dirty = true ∧ lights.isEmpty = false ∧ ∃ value, c.value = some value ∧ value ≠ zero := by
  rw [Option.isSome_iff_exists]
  simp only [pendingValue_eq_some_iff]
  constructor
  · rintro ⟨value, dirty, wanted, held, real⟩
    exact ⟨dirty, wanted, value, held, real⟩
  · rintro ⟨dirty, wanted, value, held, real⟩
    exact ⟨value, dirty, wanted, held, real⟩

theorem brightnessDue_iff :
    s.brightnessDue = true ↔ ∃ g, s.group? .brightness = some g ∧
      (pendingValue 0 g.brightness g.lights).isSome = true := by
  rw [brightnessDue, Option.any_eq_true]

theorem temperatureDue_iff :
    s.temperatureDue = true ↔ ∃ g, s.group? .temperature = some g ∧
      (pendingValue 0 g.colorTemp g.lights).isSome = true := by
  rw [temperatureDue, Option.any_eq_true]

/-- Nothing has to be sent for groups without lights. -/
theorem writesLeft_of_empty (h : ∀ kind g, s.group? kind = some g → g.lights.isEmpty = true) :
    s.writesLeft = [] := by
  have membership (kind : GroupKind) : s.membershipDue kind = false := by
    apply Bool.eq_false_iff.2
    intro due
    obtain ⟨g, found, -, wanted⟩ := membershipDue_iff.1 due
    exact nomatch (h kind g found).symm.trans wanted
  have brightness : s.brightnessDue = false := by
    apply Bool.eq_false_iff.2
    intro due
    obtain ⟨g, found, pending⟩ := brightnessDue_iff.1 due
    exact nomatch (h .brightness g found).symm.trans (pendingValue_isSome_iff.1 pending).2.1
  have temperature : s.temperatureDue = false := by
    apply Bool.eq_false_iff.2
    intro due
    obtain ⟨g, found, pending⟩ := temperatureDue_iff.1 due
    exact nomatch (h .temperature g found).symm.trans (pendingValue_isSome_iff.1 pending).2.1
  rw [writesLeft, membership, membership, brightness, temperature]
  rfl

theorem agenda_allOff {fade : Option Fade} (h : s.allOff = some fade) :
    (Step.processCommands :: (s.update settings .allOff).agenda).Sublist s.agenda := by
  have empty : (s.update settings .allOff).writesLeft = [] := by
    apply writesLeft_of_empty
    intro kind g found
    rw [group?_update_allOff, Option.map_eq_some_iff] at found
    obtain ⟨g₀, -, rfl⟩ := found
    rfl
  have flags : (s.update settings .allOff).agenda =
      dueStep (s.lights.isNone || s.reloadLights) .loadLights ++
      if s.groups.isNone || s.reloadGroups then .loadGroups :: allWrites else [] := by
    rw [agenda, empty]
    simp [update, emptyGroup, dueStep]
  rw [flags, agenda, h]
  refine List.Sublist.cons_cons _ ((List.Sublist.refl _).append ?_)
  split
  · exact List.Sublist.refl _
  · exact List.nil_sublist _

theorem agenda_lights {lights : List Light} (off : s.allOff = none)
    (due : s.lights = none ∨ s.reloadLights = true) :
    s.agenda = .loadLights :: (s.update settings (.lights lights)).agenda := by
  have same : (s.update settings (.lights lights)).writesLeft = s.writesLeft :=
    writesLeft_congr fun _ => group?_update_lights
  have load : (s.lights.isNone || s.reloadLights) = true := by simpa using due
  rw [agenda, agenda, same, off, load]
  simp only [update, off]
  rfl

/-- Once everything was listed, the writes are left. -/
theorem agenda_of_listed (off : s.allOff = none) (lights : s.lights.isSome = true)
    (reloadLights : s.reloadLights = false) (groups : s.groups.isNone = false)
    (reloadGroups : s.reloadGroups = false) : s.agenda = s.writesLeft := by
  have noLights : s.lights.isNone = false := by
    rw [← Option.not_isSome, lights]
    rfl
  simp [agenda, dueStep, off, noLights, reloadLights, groups, reloadGroups]

theorem agenda_groups {groups : List Group} {cs : List Change}
    (edits : ∀ c ∈ cs, c.edit?.isSome = true) (off : s.allOff = none)
    (lights : s.lights.isSome = true) (reloadLights : s.reloadLights = false)
    (due : s.groups = none ∨ s.reloadGroups = true) :
    (Step.loadGroups :: ((s.update settings (.groups groups)).changes cs).agenda).Sublist
      s.agenda := by
  have same := sameRequests_changes edits (s.update settings (.groups groups))
  have writes := agenda_of_listed (same.allOff.trans off) (same.lights ▸ lights)
    (same.reloadLights.trans reloadLights) (same.groups.trans rfl) (same.reloadGroups.trans rfl)
  have noLights : s.lights.isNone = false := by
    rw [← Option.not_isSome, lights]
    rfl
  have load : (s.groups.isNone || s.reloadGroups) = true := by simpa using due
  -- The listing makes every cell dirty, but all writes stood on the agenda behind it.
  rw [writes, agenda, off, noLights, reloadLights, load]
  exact (writesLeft_sublist _).cons_cons _

/-! ## Writes -/

/-- A managed group after a confirmation: every cell keeps its value, and none becomes dirty. -/
structure SettledGroup (before after : Group) : Prop where
  lights : before.lights.Settled after.lights
  brightness : before.brightness.Settled after.brightness
  colorTemp : before.colorTemp.Settled after.colorTemp

/-- Confirmations settle the managed groups. -/
def SettledBy (s t : State) : Prop :=
  ∀ kind g', t.group? kind = some g' → ∃ g, s.group? kind = some g ∧ SettledGroup g g'

theorem settledBy_membership (s : State) (settings : SyncSettings) (other : GroupKind)
    (path : String) (confirmed : Option NameSet) :
    s.SettledBy (s.update settings (.membership other path confirmed)) := by
  intro kind g' after
  rw [group?_update_membership, Option.map_eq_some_iff] at after
  obtain ⟨g, before, rfl⟩ := after
  refine ⟨g, before, ?_⟩
  split
  · unfold Group.confirmLights
    split
    · exact ⟨Cell.settled_confirm confirmed g.lights, .refl _, .refl _⟩
    · exact ⟨.refl _, .refl _, .refl _⟩
  · exact ⟨.refl _, .refl _, .refl _⟩

theorem settledBy_values (s : State) (settings : SyncSettings) (bri : Option UInt8)
    (ct : Option UInt16) : s.SettledBy (s.update settings (.values bri ct)) := by
  intro kind g' after
  rw [group?_update_values, Option.map_eq_some_iff] at after
  obtain ⟨g, before, rfl⟩ := after
  refine ⟨g, before, .refl _, ?_, ?_⟩
  · simp only
    split
    · exact Cell.settled_confirm bri g.brightness
    · exact .refl _
  · simp only
    split
    · exact Cell.settled_confirm ct g.colorTemp
    · exact .refl _

theorem isEmpty_of_settled {c c' : Cell NameSet} (h : c.Settled c') : c'.isEmpty = c.isEmpty := by
  rw [Cell.isEmpty, Cell.members, h.1]
  rfl

theorem pendingValue_of_settled {α : Type} [DecidableEq α] {zero : α} {c c' : Cell α}
    {lights lights' : Cell NameSet} (h : c.Settled c') (same : lights.Settled lights')
    (due : (pendingValue zero c' lights').isSome = true) :
    (pendingValue zero c lights).isSome = true := by
  rw [pendingValue_isSome_iff] at due ⊢
  rw [h.1, isEmpty_of_settled same] at due
  exact ⟨h.2 due.1, due.2⟩

/-- What is settled puts nothing on the agenda. -/
theorem SettledBy.due (h : s.SettledBy t) :
    (∀ kind, t.membershipDue kind = true → s.membershipDue kind = true) ∧
      (t.brightnessDue = true → s.brightnessDue = true) ∧
      (t.temperatureDue = true → s.temperatureDue = true) := by
  refine ⟨?_, ?_, ?_⟩
  · intro kind due
    obtain ⟨g', after, dirty, wanted⟩ := membershipDue_iff.1 due
    obtain ⟨g, before, settled⟩ := h kind g' after
    rw [isEmpty_of_settled settled.lights] at wanted
    exact membershipDue_iff.2 ⟨g, before, settled.lights.2 dirty, wanted⟩
  · intro due
    obtain ⟨g', after, pending⟩ := brightnessDue_iff.1 due
    obtain ⟨g, before, settled⟩ := h .brightness g' after
    exact brightnessDue_iff.2
      ⟨g, before, pendingValue_of_settled settled.brightness settled.lights pending⟩
  · intro due
    obtain ⟨g', after, pending⟩ := temperatureDue_iff.1 due
    obtain ⟨g, before, settled⟩ := h .temperature g' after
    exact temperatureDue_iff.2
      ⟨g, before, pendingValue_of_settled settled.colorTemp settled.lights pending⟩

/-- A membership that is confirmed is not due any more. -/
theorem membershipDue_of_confirmed {g : Group} {lights : NameSet} (found : s.group? kind = some g)
    (held : g.lights.value = some lights) :
    (s.update settings (.membership kind g.path (some lights))).membershipDue kind = false := by
  apply Bool.eq_false_iff.2
  intro due
  obtain ⟨g', found', dirty, -⟩ := membershipDue_iff.1 due
  rw [group?_update_membership, found, Option.map_some, if_pos rfl, Option.some.injEq] at found'
  subst found'
  rw [Group.confirmLights, if_pos rfl, Cell.confirm_eq_clean held] at dirty
  cases dirty

theorem brightnessDue_of_confirmed {g : Group} {bri : UInt8} {ct : Option UInt16}
    (found : s.group? .brightness = some g) (held : g.brightness.value = some bri) :
    (s.update settings (.values (some bri) ct)).brightnessDue = false := by
  apply Bool.eq_false_iff.2
  intro due
  obtain ⟨g', found', pending⟩ := brightnessDue_iff.1 due
  rw [group?_update_values, found, Option.map_some, Option.some.injEq] at found'
  subst found'
  have dirty := (pendingValue_isSome_iff.1 pending).1
  simp only [if_pos, Cell.confirm_eq_clean held] at dirty
  cases dirty

theorem temperatureDue_of_confirmed {g : Group} {bri : Option UInt8} {ct : UInt16}
    (found : s.group? .temperature = some g) (held : g.colorTemp.value = some ct) :
    (s.update settings (.values bri (some ct))).temperatureDue = false := by
  apply Bool.eq_false_iff.2
  intro due
  obtain ⟨g', found', pending⟩ := temperatureDue_iff.1 due
  rw [group?_update_values, found, Option.map_some, Option.some.injEq] at found'
  subst found'
  have dirty := (pendingValue_isSome_iff.1 pending).1
  simp only [if_pos, Cell.confirm_eq_clean held] at dirty
  cases dirty

/-- A membership that is confirmed takes itself off what is left. -/
theorem writesLeft_membership (planned : s.planMembership kind = some plan)
    (first : kind = .temperature → s.planMembership .brightness = none) {path : String}
    {lights : NameSet} (sent : plan = .membership kind path lights) :
    (Step.updateGroupMembership ::
      (s.update settings (.membership kind path (some lights))).writesLeft).Sublist
      s.writesLeft := by
  obtain ⟨g, found, dirty, wanted, same⟩ := planMembership_eq_some_iff.1 planned
  rw [same] at sent
  cases sent
  let t := s.update settings (.membership kind g.path (some g.lights.members))
  obtain ⟨memberships, brightness, temperature⟩ :=
    (settledBy_membership s settings kind g.path (some g.lights.members)).due
  have held : g.lights.value = some g.lights.members := by
    cases value : g.lights.value with
    | none =>
      rw [Cell.isEmpty, Cell.members, value] at wanted
      cases wanted
    | some v => rw [Cell.members, value]; rfl
  have settled : t.membershipDue kind = false := membershipDue_of_confirmed found held
  have due : s.membershipDue kind = true := by rw [membershipDue, planned]; rfl
  have values : (dueStep t.brightnessDue .updateGroupValues ++
      dueStep t.temperatureDue .updateGroupValues).Sublist
      (dueStep s.brightnessDue .updateGroupValues ++ dueStep s.temperatureDue .updateGroupValues) :=
    (dueStep_sublist brightness _).append (dueStep_sublist temperature _)
  simp only [writesLeft, List.append_assoc]
  cases kind with
  | brightness =>
    rw [due, settled]
    exact ((dueStep_sublist (memberships .temperature) _).append values).cons_cons _
  | temperature =>
    -- Its turn comes only when no brightness membership is due, and none becomes due.
    have none : s.membershipDue .brightness = false := by rw [membershipDue, first rfl]; rfl
    have none' : t.membershipDue .brightness = false :=
      Bool.eq_false_iff.2 fun due => nomatch none.symm.trans (memberships .brightness due)
    rw [due, none, settled, none']
    exact values.cons_cons _

/-- Only values are left if no membership is to be sent. -/
theorem writesLeft_of_no_membership (h : ∀ kind, s.membershipDue kind = false) :
    s.writesLeft = dueStep s.brightnessDue .updateGroupValues ++
      dueStep s.temperatureDue .updateGroupValues := by
  rw [writesLeft, h, h]
  rfl

/-- Values that are confirmed take themselves off what is left, at least the first of them. -/
theorem writesLeft_values {path : String} {command : Command} {bri : Option UInt8}
    {ct : Option UInt16} (planned : s.planValues settings = some (.values path command))
    (memberships : ∀ kind, s.planMembership kind = none)
    (hbri : ∀ v, command.bri = some v → bri = some v)
    (hct : ∀ v, command.ct = some v → ct = some v) :
    (Step.updateGroupValues :: (s.update settings (.values bri ct)).writesLeft).Sublist
      s.writesLeft := by
  obtain ⟨b, w, path', command', foundB, foundT, same, -, carriedB, carriedT, carries⟩ :=
    planValues_eq_some planned
  cases same
  let t := s.update settings (.values bri ct)
  obtain ⟨memberships', brightness, temperature⟩ := (settledBy_values s settings bri ct).due
  have none (kind : GroupKind) : s.membershipDue kind = false := by
    rw [membershipDue, memberships kind]
    rfl
  have none' (kind : GroupKind) : t.membershipDue kind = false :=
    Bool.eq_false_iff.2 fun due => nomatch (none kind).symm.trans (memberships' kind due)
  rw [writesLeft_of_no_membership none, writesLeft_of_no_membership none']
  -- The brightness goes first; a color temperature may have to wait for a request of its own.
  cases sent : command.bri with
  | some v =>
    have pending := carriedB.symm.trans sent
    have due : s.brightnessDue = true := brightnessDue_iff.2 ⟨b, foundB, by rw [pending]; rfl⟩
    cases hbri v sent
    rw [due, brightnessDue_of_confirmed foundB (pendingValue_eq_some_iff.1 pending).2.2.1]
    exact (dueStep_sublist temperature _).cons_cons _
  | none =>
    -- Without a brightness the request is there for the color temperature.
    have nothing : s.brightnessDue = false := by
      apply Bool.eq_false_iff.2
      intro due
      obtain ⟨g, found, pending⟩ := brightnessDue_iff.1 due
      cases foundB.symm.trans found
      rw [← carriedB, sent] at pending
      cases pending
    have nothing' : t.brightnessDue = false :=
      Bool.eq_false_iff.2 fun due => nomatch nothing.symm.trans (brightness due)
    have carried : command.ct.isSome = true := by simpa [sent] using carries
    obtain ⟨v, sentT⟩ := Option.isSome_iff_exists.1 carried
    have pending : pendingValue 0 w.colorTemp w.lights = some v := by
      rcases carriedT with same | ⟨-, no⟩
      · rw [← same, sentT]
      · rw [sent] at no
        cases no
    have due : s.temperatureDue = true := temperatureDue_iff.2 ⟨w, foundT, by rw [pending]; rfl⟩
    cases hct v sentT
    rw [nothing, nothing', due,
      temperatureDue_of_confirmed foundT (pendingValue_eq_some_iff.1 pending).2.2.1]
    exact List.Sublist.refl _

/-! ## Completed steps -/

theorem Listed.agenda (h : s.Listed) : s.agenda = s.writesLeft := by
  have groups : s.groups.isNone = false := by
    rw [← Option.not_isSome, h.groups]
    rfl
  exact agenda_of_listed h.allOff h.lights h.reloadLights groups h.reloadGroups

theorem Listed.sameRequests (h : s.Listed) (same : s.SameRequests t) : t.Listed where
  allOff := same.allOff.trans h.allOff
  lights := same.lights ▸ h.lights
  reloadLights := same.reloadLights.trans h.reloadLights
  groups := by
    rw [← Option.not_isNone, same.groups, Option.not_isNone, h.groups]
  reloadGroups := same.reloadGroups.trans h.reloadGroups

/-- A write that is confirmed takes itself off what is left. -/
theorem writesLeft_of_course (planned : s.course settings = some plan)
    (confirmed : plan.ConfirmedBy u) :
    plan ≠ .loadGroups ∧ s.SameRequests (s.update settings u) ∧
      (plan.step :: (s.update settings u).writesLeft).Sublist s.writesLeft := by
  rcases Option.or_eq_some_iff.1 planned with membership | ⟨none, values⟩
  · have step (kind : GroupKind) (planned : s.planMembership kind = some plan)
        (first : kind = .temperature → s.planMembership .brightness = none) :
        plan ≠ .loadGroups ∧ s.SameRequests (s.update settings u) ∧
          (plan.step :: (s.update settings u).writesLeft).Sublist s.writesLeft := by
      obtain ⟨g, -, -, -, rfl⟩ := planMembership_eq_some_iff.1 planned
      rw [show u = .membership kind g.path (some g.lights.members) from confirmed]
      exact ⟨nofun, sameRequests_modifyGroup s kind _, writesLeft_membership planned first rfl⟩
    rcases Option.or_eq_some_iff.1 membership with brightness | ⟨none, temperature⟩
    · exact step .brightness brightness nofun
    · exact step .temperature temperature fun _ => none
  · obtain ⟨noBrightness, noTemperature⟩ := Option.or_eq_none_iff.1 none
    obtain ⟨_, _, path, command, -, -, rfl, -⟩ := planValues_eq_some values
    obtain ⟨bri, ct, rfl, hbri, hct⟩ := confirmed
    have requests : s.SameRequests (s.update settings (.values bri ct)) :=
      (sameRequests_modifyGroup s .brightness _).trans (sameRequests_modifyGroup _ .temperature _)
    refine ⟨nofun, requests, writesLeft_values values (fun kind => ?_) hbri hct⟩
    cases kind with
    | brightness => exact noBrightness
    | temperature => exact noTemperature

/-- A completed step takes itself off the agenda, also if changes are made once the groups were
listed. -/
theorem agenda_of_plan (planned : s.plan settings = some plan) (confirmed : plan.ConfirmedBy u)
    {cs : List Change} (edits : ∀ c ∈ cs, c.edit?.isSome = true)
    (quiet : plan ≠ .loadGroups → cs = []) :
    (plan.step :: ((s.update settings u).changes cs).agenda).Sublist s.agenda := by
  rcases s.plan_cases settings with
    ⟨fade, off, same⟩ | ⟨off, due, same⟩ | ⟨off, lights, reloadLights, due, same⟩ | ⟨listed, same⟩
  · cases planned.symm.trans same
    rw [quiet nofun, show u = .allOff from confirmed]
    exact @agenda_allOff s settings fade off
  · cases planned.symm.trans same
    obtain ⟨lights, rfl⟩ := confirmed
    rw [quiet nofun, @agenda_lights s settings lights off due]
    exact List.Sublist.refl _
  · cases planned.symm.trans same
    obtain ⟨groups, rfl⟩ := confirmed
    exact agenda_groups edits off lights reloadLights due
  · rw [planned] at same
    split at same
    · obtain ⟨other, requests, sublist⟩ := writesLeft_of_course same.symm confirmed
      rw [quiet other, changes_nil, listed.agenda, (listed.sameRequests requests).agenda]
      exact sublist
    · cases same

end Reconciler.State
end LightSync
