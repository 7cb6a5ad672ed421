import LightSync.Proofs.Membership
import LightSync.Proofs.Moves

/-!
# Memberships as sets

The operations on a membership are those on sets: a set is replaced, united with the numbers of a
list that are not empty, or freed from the lights of a list. An operation that leaves the set as it
was does nothing at all, and every other one makes the cell dirty and asks for a loop. So the order
in which single lights are added and removed matters only among those operations that concern the
same light in the same group.

## Main definitions

- `Cell.replace`: other members are wanted
- `MemberOp`, with `MemberOp.apply` and `MemberOp.Wants`: the operations, done to a set
- `Enrolment`, `State.SameEntry`: single lights that are added and removed
- `Scene.HoldsSets`: the memberships of the managed groups are known sets
-/

namespace LightSync

namespace NameSet

variable {s : NameSet} {name : String}

theorem insert_eq_self_iff : s.insert name = s ↔ name ∈ s := by
  refine ⟨fun same => same ▸ mem_insert.2 (.inl rfl), fun mem => ext fun x => ?_⟩
  rw [mem_insert]
  exact ⟨fun h => h.elim (· ▸ mem) id, .inr⟩

theorem erase_eq_self_iff : s.erase name = s ↔ name ∉ s := by
  refine ⟨fun same mem => (mem_erase.1 (same.symm ▸ mem)).2 rfl, fun absent => ext fun x => ?_⟩
  rw [mem_erase]
  exact ⟨And.left, fun mem => ⟨mem, fun same => absent (same ▸ mem)⟩⟩

theorem mem_foldl_erase {names : List String} {x : String} :
    x ∈ names.foldl erase s ↔ x ∈ s ∧ x ∉ names := by
  induction names generalizing s with
  | nil => simp
  | cons n rest ih => rw [List.foldl_cons, ih, mem_erase, List.mem_cons, and_assoc, not_or]

end NameSet

/-! ## Cells -/

namespace Cell

/-- Wants these members. Says whether they are other ones than before. -/
def replace (c : Cell NameSet) (lights : NameSet) : Cell NameSet × Bool :=
  if lights = c.members then (c, false)
  else ({ c with value := some lights, dirty := true }, true)

variable {c : Cell NameSet} {lights lights' : NameSet}

theorem replace_of_eq (same : lights = c.members) : c.replace lights = (c, false) := if_pos same

theorem replace_of_ne (other : lights ≠ c.members) :
    c.replace lights = ({ c with value := some lights, dirty := true }, true) := if_neg other

theorem members_replace : (c.replace lights).1.members = lights := by
  by_cases same : lights = c.members
  · rw [replace_of_eq same, same]
  · rw [replace_of_ne same]
    rfl

theorem changed_replace : (c.replace lights).2 = true ↔ lights ≠ c.members := by
  by_cases same : lights = c.members
  · rw [replace_of_eq same]
    exact ⟨nofun, absurd same⟩
  · rw [replace_of_ne same]
    exact ⟨fun _ => same, fun _ => rfl⟩

/-- Members that do not come back are replaced at once as well as in two goes. -/
theorem replace_replace (stays : lights' = c.members → lights = c.members) :
    ((c.replace lights).1.replace lights').1 = (c.replace lights').1 ∧
      (((c.replace lights).1.replace lights').2 || (c.replace lights).2) =
        (c.replace lights').2 := by
  by_cases first : lights = c.members
  · rw [replace_of_eq first, Bool.or_false]
    exact ⟨rfl, rfl⟩
  · have other : lights' ≠ c.members := fun same => first (stays same)
    rw [replace_of_ne first, replace_of_ne other, Bool.or_true]
    refine ⟨?_, rfl⟩
    by_cases second : lights' = lights
    · have members : lights = members ⟨some lights, true, c.major⟩ := rfl
      rw [second]
      exact (congrArg Prod.fst (replace_of_eq members) :)
    · exact congrArg Prod.fst (replace_of_ne second)

/-- An operation that replaces the members, done for several names in turn. -/
private theorem foldl_eq_replace {op : Cell NameSet → String → Cell NameSet × Bool}
    {step : NameSet → String → NameSet}
    (single : ∀ c name, op c name = c.replace (step c.members name))
    (stays : ∀ s name rest, (name :: rest).foldl step s = s → step s name = s)
    (names : List String) (c : Cell NameSet) (changed : Bool) :
    names.foldl (fun (c, changed) name => ((op c name).1, (op c name).2 || changed)) (c, changed) =
      ((c.replace (names.foldl step c.members)).1,
        (c.replace (names.foldl step c.members)).2 || changed) := by
  induction names generalizing c changed with
  | nil => rw [List.foldl_nil, List.foldl_nil, replace_of_eq rfl, Bool.false_or]
  | cons name rest ih =>
    -- A name that makes a difference is not made good by those after it.
    obtain ⟨cell, flag⟩ := replace_replace (stays c.members name rest)
    rw [List.foldl_cons, ih, single, members_replace, ← Bool.or_assoc]
    exact Prod.ext cell (congrArg (· || changed) flag)

theorem insert_eq_replace (c : Cell NameSet) (name : String) :
    c.insert name = c.replace (c.members.insert name) := by
  unfold insert
  split
  · next there => exact (replace_of_eq (NameSet.insert_eq_self_iff.2 there)).symm
  · next absent => exact (replace_of_ne (mt NameSet.insert_eq_self_iff.1 absent)).symm

theorem remove_eq_replace (c : Cell NameSet) (name : String) :
    c.remove name = c.replace (c.members.erase name) := by
  unfold remove
  split
  · next there =>
    exact (replace_of_ne fun same => NameSet.erase_eq_self_iff.1 same there).symm
  · next absent => exact (replace_of_eq (NameSet.erase_eq_self_iff.2 absent)).symm

theorem insertAll_eq_replace (c : Cell NameSet) (names : List String) :
    c.insertAll names = c.replace (names.foldl NameSet.insert c.members) := by
  refine (foldl_eq_replace insert_eq_replace ?_ names c false).trans ?_
  · intro s name rest same
    rw [NameSet.insert_eq_self_iff, ← same]
    exact NameSet.mem_foldl_insert.2 (.inl (List.mem_cons_self ..))
  · rw [Bool.or_false]

theorem removeAll_eq_replace (c : Cell NameSet) (names : List String) :
    c.removeAll names = c.replace (names.foldl NameSet.erase c.members) := by
  refine (foldl_eq_replace remove_eq_replace ?_ names c false).trans ?_
  · intro s name rest same
    rw [NameSet.erase_eq_self_iff, ← same]
    exact fun mem => (NameSet.mem_foldl_erase.1 mem).2 (List.mem_cons_self ..)
  · rw [Bool.or_false]

/-- A cell that holds a set, which was never wanted by a major change. -/
structure HoldsSet (c : Cell NameSet) : Prop where
  value : c.value.isSome = true
  major : c.major = false

theorem HoldsSet.replace (h : c.HoldsSet) (lights : NameSet) : (c.replace lights).1.HoldsSet := by
  by_cases same : lights = c.members
  · rw [replace_of_eq same]
    exact h
  · rw [replace_of_ne same]
    exact ⟨rfl, h.major⟩

theorem HoldsSet.set_eq_replace (h : c.HoldsSet) (lights : NameSet) :
    c.set lights = c.replace lights := by
  obtain ⟨held, value⟩ := Option.isSome_iff_exists.1 h.value
  have members : c.members = held := congrArg (Option.getD · ∅) value
  by_cases same : lights = held
  · rw [set_of_eq (value.trans (congrArg some same.symm)), replace_of_eq (same.trans members.symm)]
  · rw [set_of_ne (fun eq => same (Option.some.inj (eq.symm.trans value))),
      replace_of_ne (fun eq => same (eq.trans members)), h.major]
    rfl

theorem HoldsSet.confirm (h : c.HoldsSet) (confirmed : Option NameSet) :
    (Reconciler.State.confirm confirmed c).HoldsSet := by
  cases confirmed with
  | none => exact h
  | some value =>
    by_cases same : c.value = some value
    · rw [confirm_eq_clean same]
      exact ⟨h.value, rfl⟩
    · rw [confirm_of_ne same]
      exact h

end Cell

namespace Bridge.Group

/-- The group with these lights wanted, to be brought to the bridge. -/
def wanting (lights : NameSet) (g : Group) : Group :=
  { g with lights := { g.lights with value := some lights, dirty := true } }

end Bridge.Group

namespace Reconciler

open Bridge

/-! ## Operations on a membership -/

/-- An operation on a membership. -/
inductive MemberOp where
  | set (lights : NameSet)
  | add (names : List String)
  | remove (names : List String)

namespace MemberOp

/-- The operation as a change of a managed group. -/
def change (op : MemberOp) (kind : GroupKind) : Change :=
  match op with
  | set lights => .setLights kind lights
  | add names => .addLights kind names
  | remove names => .removeLights kind names

/-- The operation, done to a set. -/
def apply (op : MemberOp) (before : NameSet) : NameSet :=
  match op with
  | set lights => lights
  | add names => (names.filter (· != "")).foldl NameSet.insert before
  | remove names => names.foldl NameSet.erase before

/-- Is a light wanted after the operation? -/
def Wants (op : MemberOp) (before : NameSet) (light : String) : Prop :=
  match op with
  | set lights => light ∈ lights
  | add names => light ∈ before ∨ light ∈ names ∧ light ≠ ""
  | remove names => light ∈ before ∧ light ∉ names

theorem mem_apply {op : MemberOp} {before : NameSet} {light : String} :
    light ∈ op.apply before ↔ op.Wants before light := by
  cases op with
  | set lights => exact Iff.rfl
  | add names => simp only [apply, Wants, NameSet.mem_foldl_insert, List.mem_filter, bne_iff_ne,
      or_comm]
  | remove names => exact NameSet.mem_foldl_erase

/-- The operation, done to a cell. -/
def cell (op : MemberOp) (c : Cell NameSet) : Cell NameSet × Bool :=
  match op with
  | set lights => c.set lights
  | add names => c.insertAll (names.filter (· != ""))
  | remove names => c.removeAll names

theorem cell_eq_replace {op : MemberOp} {c : Cell NameSet}
    (held : (∃ lights, op = set lights) → c.HoldsSet) :
    op.cell c = c.replace (op.apply c.members) := by
  cases op with
  | set lights => exact (held ⟨lights, rfl⟩).set_eq_replace lights
  | add names => exact c.insertAll_eq_replace _
  | remove names => exact c.removeAll_eq_replace names

theorem cell_of_not_changed {op : MemberOp} {c : Cell NameSet} (same : (op.cell c).2 = false) :
    (op.cell c).1 = c := by
  cases op with
  | set lights => exact Cell.set_of_not_changed same
  | add names => exact Cell.insertAll_of_not_changed same
  | remove names => exact Cell.removeAll_of_not_changed same

theorem change_eq_changeLights (op : MemberOp) (kind : GroupKind) (s : State) :
    s.change (op.change kind) = s.changeLights kind op.cell := by
  cases op <;> rfl

end MemberOp

/-! ## Every managed group holds a set -/

namespace State

variable {s t : State} {settings : SyncSettings} {kind : GroupKind}

/-- The memberships of the managed groups are known sets. -/
def HoldsSets (s : State) : Prop := ∀ kind g, s.group? kind = some g → g.lights.HoldsSet

theorem HoldsSets.congr (h : s.HoldsSets) (same : s.unclaimed = t.unclaimed) : t.HoldsSets :=
  fun kind g known => h kind g ((group?_congr same kind).trans known)

theorem holdsSet_edit {c : Change} {f : Group → Group × Bool} (edits : c.edit? = some (kind, f))
    {g : Group} (h : g.lights.HoldsSet) : (f g).1.lights.HoldsSet := by
  have op (op : MemberOp) : (op.cell g.lights).1.HoldsSet := by
    rw [op.cell_eq_replace fun _ => h]
    exact h.replace _
  cases c with
  | setLights _ lights =>
    cases edits
    exact op (.set lights)
  | addLights _ names =>
    cases edits
    exact op (.add names)
  | removeLights _ names =>
    cases edits
    exact op (.remove names)
  | setBrightness | setTemperature =>
    cases edits
    exact h
  | requestAllOff | requestReload | runLoop => cases edits

theorem HoldsSets.change (h : s.HoldsSets) (c : Change) : (s.change c).1.HoldsSets := by
  intro kind g' after
  rcases s.change_cases c with ⟨other, f, edits, made⟩ | ⟨same, -⟩ | ⟨-, -, request⟩
  · rw [made, group?_modifyGroup] at after
    obtain ⟨g, known, rfl⟩ := Option.map_eq_some_iff.1 after
    split
    · exact holdsSet_edit edits (h kind g known)
    · exact h kind g known
  · exact h kind g' (same ▸ after)
  · refine h kind g' ?_
    rw [← after]
    rcases request with ⟨fade, rfl⟩ | rfl | rfl <;> cases kind <;> rfl

theorem HoldsSets.update (h : s.HoldsSets) (u : Update) : (s.update settings u).HoldsSets := by
  intro kind g' after
  cases u with
  | allOff =>
    rw [group?_update_allOff] at after
    obtain ⟨g, -, rfl⟩ := Option.map_eq_some_iff.1 after
    exact ⟨rfl, rfl⟩
  | lights lights =>
    rw [group?_update_lights] at after
    exact h kind g' after
  | groups groups =>
    rw [group?_update_groups] at after
    obtain ⟨g, -, rfl⟩ := Option.map_eq_some_iff.1 after
    exact ⟨rfl, rfl⟩
  | membership other path confirmed =>
    rw [group?_update_membership] at after
    obtain ⟨g, known, rfl⟩ := Option.map_eq_some_iff.1 after
    unfold Group.confirmLights
    split
    · split
      · exact (h kind g known).confirm confirmed
      · exact h kind g known
    · exact h kind g known
  | values bri ct =>
    rw [group?_update_values] at after
    obtain ⟨g, known, rfl⟩ := Option.map_eq_some_iff.1 after
    exact h kind g known

theorem HoldsSets.moveAll (h : s.HoldsSets) (moves : List Move) :
    (s.moveAll settings moves).HoldsSets := by
  induction moves generalizing s with
  | nil => exact h
  | cons m rest ih =>
    cases m with
    | change c => exact ih (h.change c)
    | update u => exact ih (h.update u)

end State

theorem Scene.holdsSets_run (settings : SyncSettings) (wording : Wording)
    (events : List Scene.Event) :
    ((Scene.new settings wording).run events).state.HoldsSets := by
  refine State.HoldsSets.congr ?_ ((Scene.new settings wording).unclaimed_run events).symm
  refine State.HoldsSets.moveAll ?_ _
  intro kind g known
  cases kind <;> cases known

/-! ## Single lights -/

/-- A light is added to a membership or removed from it, where loops can run or cannot. -/
structure Enrolment where
  canRun : Bool
  kind : GroupKind
  light : String
  joins : Bool
deriving DecidableEq

namespace Enrolment

def op (m : Enrolment) : MemberOp := if m.joins then .add [m.light] else .remove [m.light]

abbrev change (m : Enrolment) : Change := m.op.change m.kind

variable (m : Enrolment) {before before' : NameSet} {light : String}

/-- Other lights are left alone. -/
theorem mem_apply_of_ne (other : light ≠ m.light) : light ∈ m.op.apply before ↔ light ∈ before := by
  rw [MemberOp.mem_apply, op]
  split <;> simp [MemberOp.Wants, other]

/-- Whether a light is wanted afterwards depends only on whether it was wanted before. -/
theorem mem_apply_congr (same : light ∈ before ↔ light ∈ before') :
    light ∈ m.op.apply before ↔ light ∈ m.op.apply before' := by
  rw [MemberOp.mem_apply, MemberOp.mem_apply, op]
  split <;> simp only [MemberOp.Wants, same]

theorem apply_eq_self_iff :
    m.op.apply before = before ↔ (m.light ∈ m.op.apply before ↔ m.light ∈ before) := by
  refine ⟨fun same => by rw [same], fun same => NameSet.ext fun light => ?_⟩
  by_cases here : light = m.light
  · rw [here, same]
  · exact m.mem_apply_of_ne here

theorem cell_eq_replace (c : Cell NameSet) : m.op.cell c = c.replace (m.op.apply c.members) := by
  refine MemberOp.cell_eq_replace fun ⟨lights, isSet⟩ => ?_
  rw [op] at isSet
  split at isSet <;> cases isSet

variable {m} {m' : Enrolment}

theorem apply_comm (apart : m'.light ≠ m.light) (before : NameSet) :
    m'.op.apply (m.op.apply before) = m.op.apply (m'.op.apply before) := by
  refine NameSet.ext fun light => ?_
  by_cases here : light = m.light
  · have other : light ≠ m'.light := fun same => apart (same.symm.trans here)
    exact (m'.mem_apply_of_ne other).trans (m.mem_apply_congr (m'.mem_apply_of_ne other).symm)
  · exact (m'.mem_apply_congr (m.mem_apply_of_ne here)).trans (m.mem_apply_of_ne here).symm

/-- Whether an operation makes a difference does not depend on other lights. -/
theorem apply_apply_eq_iff (apart : m'.light ≠ m.light) :
    m'.op.apply (m.op.apply before) = m.op.apply before ↔ m'.op.apply before = before := by
  have same : m'.light ∈ m.op.apply before ↔ m'.light ∈ before := m.mem_apply_of_ne apart
  rw [apply_eq_self_iff, apply_eq_self_iff, same, m'.mem_apply_congr same]

/-- Operations on different lights, done to a cell one after the other. -/
theorem cell_comm (apart : m'.light ≠ m.light) (c : Cell NameSet) :
    m'.op.cell (m.op.cell c).1 = ((m.op.cell (m'.op.cell c).1).1, (m'.op.cell c).2) := by
  have stays {n n' : Enrolment} (apart : n'.light ≠ n.light)
      (back : n'.op.apply (n.op.apply c.members) = c.members) :
      n.op.apply c.members = c.members := by
    rw [apply_eq_self_iff, ← n'.mem_apply_of_ne apart.symm, back]
  simp only [cell_eq_replace, Cell.members_replace]
  refine Prod.ext ?_ ?_
  · rw [(Cell.replace_replace (stays apart)).1, apply_comm apart,
      (Cell.replace_replace (stays apart.symm)).1]
  · rw [Bool.eq_iff_iff, Cell.changed_replace, Cell.changed_replace, Cell.members_replace, ne_eq,
      apply_apply_eq_iff apart]

end Enrolment

namespace State

variable {s : State} {kind : GroupKind} {m m' : Enrolment}

theorem changeLights_of_known {g : Group} (known : s.group? kind = some g)
    (f : Cell NameSet → Cell NameSet × Bool) :
    s.changeLights kind f =
      if (f g.lights).2 then
        (s.modifyGroup kind fun g => { g with lights := (f g.lights).1 }, .changed)
      else (s, .none) := by
  simp only [changeLights, changeGroup, known]

/-- An operation changes the group at the place of the managed group that it concerns. -/
theorem change_op (s : State) (op : MemberOp) (kind : GroupKind) :
    (s.change (op.change kind)).1 =
      s.modifyGroup kind fun g => { g with lights := (op.cell g.lights).1 } := by
  rw [op.change_eq_changeLights]
  cases known : s.group? kind with
  | none =>
    rw [wanted_changeLights_of_unknown known]
    exact (modifyGroup_of_same fun g same => nomatch known.symm.trans same).symm
  | some g =>
    rw [changeLights_of_known known]
    by_cases changed : (op.cell g.lights).2 = true
    · rw [if_pos changed]
    · rw [if_neg changed]
      refine (modifyGroup_of_same fun g' same => ?_).symm
      cases known.symm.trans same
      rw [MemberOp.cell_of_not_changed (Bool.eq_false_iff.2 changed)]

theorem changed_op_iff (s : State) (op : MemberOp) (kind : GroupKind) :
    (s.change (op.change kind)).2 = .changed ↔
      ∃ g, s.group? kind = some g ∧ (op.cell g.lights).2 = true := by
  rw [op.change_eq_changeLights]
  cases known : s.group? kind with
  | none =>
    rw [changeLights, changeGroup, known]
    constructor
    · intro changed
      cases changed
    · rintro ⟨g, found, -⟩
      cases found
  | some g =>
    rw [changeLights_of_known known]
    by_cases changed : (op.cell g.lights).2 = true <;> simp [changed]

/-- Both concern the same light in the same group, which may be managed for both values. -/
def SameEntry (s : State) (m m' : Enrolment) : Prop :=
  s.place m.kind ≠ none ∧ s.place m'.kind = s.place m.kind ∧ m'.light = m.light

instance (s : State) : DecidableRel s.SameEntry :=
  fun _ _ => inferInstanceAs (Decidable (_ ∧ _ ∧ _))

theorem SameEntry.symm (h : s.SameEntry m m') : s.SameEntry m' m :=
  ⟨h.2.1 ▸ h.1, h.2.1.symm, h.2.2.symm⟩

/-- Operations that do not concern the same entry are done in any order. -/
theorem change_comm (apart : ¬ s.SameEntry m m') :
    ((s.change m.change).1.change m'.change).1 = ((s.change m'.change).1.change m.change).1 := by
  simp only [change_op]
  refine modifyGroup_comm fun listed same g => ?_
  have lights : m'.light ≠ m.light := fun light => apart ⟨listed, same, light⟩
  rw [Enrolment.cell_comm lights]

/-- Whether an operation makes a difference does not depend on those of other entries. -/
theorem changed_change_iff (apart : ¬ s.SameEntry m m') :
    ((s.change m.change).1.change m'.change).2 = .changed ↔
      (s.change m'.change).2 = .changed := by
  rw [changed_op_iff, changed_op_iff, change_op, group?_modifyGroup]
  cases known : s.group? m'.kind with
  | none => simp
  | some g =>
    by_cases same : s.place m'.kind = s.place m.kind
    · have listed : s.place m.kind ≠ none := by
        intro nowhere
        rw [group?, same, nowhere] at known
        cases known
      have lights : m'.light ≠ m.light := fun light => apart ⟨listed, same, light⟩
      simp [same, Enrolment.cell_comm lights]
    · simp [same]

end State

/-! ## Changes and the claim of a loop -/

theorem State.change_looping (s : State) (looping : Bool) (c : Change) :
    { s with looping }.change c = ({ (s.change c).1 with looping }, (s.change c).2) := by
  cases hedit : c.edit? with
  | some edit =>
    obtain ⟨kind, f⟩ := edit
    have group : { s with looping }.group? kind = s.group? kind := by cases kind <;> rfl
    have edited (f : Group → Group) :
        { s with looping }.modifyGroup kind f = { s.modifyGroup kind f with looping } := by
      cases kind <;> simp only [modifyGroup, place] <;> split <;> rfl
    rw [change_of_edit hedit, change_of_edit hedit, changeGroup, changeGroup, group]
    cases s.group? kind with
    | none => rfl
    | some g => by_cases different : (f g).2 = true <;> simp [different, edited]
  | none => cases c <;> simp [Change.edit?] at hedit <;> rfl

/-- Does a change make a difference? -/
def State.isChangedBy (s : State) (c : Change) : Bool := (s.change c).2 = .changed

/-- The claim of a loop is attempted exactly if a change makes a difference. -/
theorem silent_change_eq (r : Reconciler) (canRun : Bool) (c : Change) :
    (r.change canRun c).silent =
      ({ r with state := (r.state.change c).1 }.claimLoop
        (canRun && r.state.isChangedBy c)).silent := by
  rw [State.isChangedBy]
  by_cases made : (r.state.change c).2 = .changed
  · rw [change_of_changed made, decide_eq_true made, Bool.and_true]
  · rw [silent_change_of_not_changed made, decide_eq_false made, Bool.and_false,
      State.change_of_not_changed made]
    simp [claimLoop]

/-- A claim is taken once, however often it is attempted. -/
theorem claimLoop_claimLoop (r : Reconciler) (canRun canRun' : Bool) :
    (r.claimLoop canRun).claimLoop canRun' = r.claimLoop (canRun || canRun') := by
  rcases r.claimLoop_cases canRun with ⟨-, -, rfl, claimed⟩ | ⟨taken, same⟩
  · rw [Bool.true_or, claimed]
    simp [claimLoop]
  · rw [same]
    cases canRun with
    | false => rw [Bool.false_or]
    | true =>
      have other : ¬(r.settings.background && !r.state.looping) = true := by simpa using taken
      simp [claimLoop, other]

/-- A change does the same whether a loop claimed to run or not. -/
theorem change_claimLoop (r : Reconciler) (canRun : Bool) (c : Change) :
    { r.claimLoop canRun with state := ((r.claimLoop canRun).state.change c).1 } =
        { r with state := (r.state.change c).1 }.claimLoop canRun ∧
      (r.claimLoop canRun).state.isChangedBy c = r.state.isChangedBy c := by
  have still := r.state.looping_change c
  rcases r.claimLoop_cases canRun with ⟨background, free, rfl, claimed⟩ | ⟨taken, same⟩
  · rw [claimed]
    simp only [State.isChangedBy, State.change_looping, and_true]
    simp [claimLoop, takeTicket, background, free, still]
  · rw [same]
    refine ⟨?_, rfl⟩
    rw [← still] at taken
    rcases claimLoop_cases { r with state := (r.state.change c).1 } canRun with
      ⟨background, free, runs, -⟩ | ⟨-, same'⟩
    · exact absurd ⟨background, free, runs⟩ taken
    · exact same'.symm

/-- Two changes, one after the other, attempt one claim between them. -/
theorem silent_change_change (r : Reconciler) (canRun canRun' : Bool) (c c' : Change) :
    let s := (r.state.change c).1
    ((r.change canRun c).change canRun' c').silent =
      ({ r with state := (s.change c').1 }.claimLoop
        (canRun && r.state.isChangedBy c || canRun' && s.isChangedBy c')).silent := by
  intro s
  obtain ⟨moved, same⟩ :=
    change_claimLoop { r with state := s } (canRun && r.state.isChangedBy c) c'
  rw [silent_change_congr (silent_change_eq r canRun c), silent_change_eq, moved, same,
    claimLoop_claimLoop]

/-! ## Single lights, one after the other -/

/-- A light is added to a membership or removed from it. -/
def enrol (r : Reconciler) (m : Enrolment) : Reconciler := r.change m.canRun m.change

/-- The order of two operations that concern different entries does not matter. -/
theorem silent_enrol_comm {r : Reconciler} {m m' : Enrolment} (apart : ¬ r.state.SameEntry m m') :
    ((r.enrol m').enrol m).silent = ((r.enrol m).enrol m').silent := by
  have apart' : ¬ r.state.SameEntry m' m := fun same => apart same.symm
  have same : (r.state.change m'.change).1.isChangedBy m.change = r.state.isChangedBy m.change :=
    decide_eq_decide.2 (State.changed_change_iff apart')
  have same' : (r.state.change m.change).1.isChangedBy m'.change = r.state.isChangedBy m'.change :=
    decide_eq_decide.2 (State.changed_change_iff apart)
  rw [enrol, enrol, enrol, enrol, silent_change_change, silent_change_change, same, same',
    State.change_comm apart, Bool.or_comm]

theorem place_enrol (r : Reconciler) (m : Enrolment) (kind : GroupKind) :
    (r.enrol m).state.place kind = r.state.place kind := by
  rw [enrol, State.place_congr (r.unclaimed_change m.canRun m.change) kind, State.change_op,
    State.place_modifyGroup]

/-- Single lights are added and removed in any order that keeps the order for each entry. -/
theorem silent_after_of_reordered {r : Reconciler} {ms ms' : List Enrolment}
    (h : Run.Reordered r.state.SameEntry ms ms') :
    (Run.after enrol r ms).silent = (Run.after enrol r ms').silent := by
  -- Whether two operations concern one entry is decided by places, which no operation changes.
  let places (t : Reconciler) : Prop := ∀ kind, t.state.place kind = r.state.place kind
  have entry {t : Reconciler} (there : places t) (m m' : Enrolment) :
      t.state.SameEntry m m' ↔ r.state.SameEntry m m' := by
    simp only [State.SameEntry, there m.kind, there m'.kind]
  have start : places r := fun _ => rfl
  refine Run.view_after_of_reordered (fun t u m same => ?_) (fun t m there kind => ?_)
    (fun t m m' there apart => ?_) (fun m m' same => ?_) start h
  · exact silent_change_congr same m.canRun m.change
  · exact (place_enrol t m kind).trans (there kind)
  · exact silent_enrol_comm fun same => apart ((entry there m m').1 same)
  · exact ⟨same.1, rfl, rfl⟩

namespace Scene

/-- What a membership operation does where the managed group is known. -/
theorem change_of_known {s : Scene} {kind : GroupKind} {g : Group} (sets : s.state.HoldsSets)
    (known : s.state.group? kind = some g) (op : MemberOp) (canRun : Bool) :
    let lights := op.apply g.lights.members
    s.sync.change canRun (op.change kind) =
      if lights = g.lights.members then s.sync
      else { s.sync with
        state := s.state.modifyGroup kind (Group.wanting lights) }.claimLoop canRun := by
  intro lights
  have replaced : op.cell g.lights = g.lights.replace lights :=
    op.cell_eq_replace fun _ => sets kind g known
  have changes : s.state.change (op.change kind) = _ :=
    (op.change_eq_changeLights kind s.state).trans (State.changeLights_of_known known op.cell)
  rw [replaced] at changes
  by_cases same : lights = g.lights.members
  · rw [if_pos same]
    rw [Cell.replace_of_eq same] at changes
    simp only [change, changes]
    rfl
  · rw [if_neg same]
    rw [Cell.replace_of_ne same] at changes
    have edited : s.state.modifyGroup kind (fun g => { g with lights := (op.cell g.lights).1 }) =
        s.state.modifyGroup kind (Group.wanting lights) := by
      refine State.modifyGroup_congr fun g' there => ?_
      cases known.symm.trans there
      rw [replaced, Cell.replace_of_ne same]
      rfl
    simp only [change, changes, edited]
    rfl

/-- Operations on memberships are operations on sets. From its beginning on, however a reconciler is
driven, an operation on the membership of a managed group replaces the set, unites it with the
numbers of a list that are not empty, or takes away the lights of a list. If that gives the same
set, nothing changes at all; else the cell is dirty, nothing else in the state changes, and the
claim of a loop is attempted. So two sequences of single lights that are added and removed, and that
differ in the order between different entries only, have the same effect, whatever the reconciler
has come to be. -/
theorem membership_follows_set_algebra (settings : SyncSettings) (wording : Wording)
    (events : List Event) :
    let s := (new settings wording).run events
    (∀ kind g, s.state.group? kind = some g → ∀ (op : MemberOp) (canRun : Bool),
      let lights := op.apply g.lights.members
      (∀ light, light ∈ lights ↔ op.Wants g.lights.members light) ∧
      s.sync.change canRun (op.change kind) =
        if lights = g.lights.members then s.sync
        else { s.sync with
          state := s.state.modifyGroup kind (Group.wanting lights) }.claimLoop canRun) ∧
    ∀ ms ms', Run.Reordered s.state.SameEntry ms ms' →
      (Run.after enrol s.sync ms).silent = (Run.after enrol s.sync ms').silent := by
  intro s
  refine ⟨fun kind g known op canRun => ⟨fun _ => MemberOp.mem_apply, ?_⟩,
    fun ms ms' reordered => silent_after_of_reordered reordered⟩
  exact change_of_known (holdsSets_run settings wording events) known op canRun

/-- A light and the two managed groups are listed. -/
def managedGroupsListed : List Event := [
  .go (.hand 0), .answer (.hand 0) (.ok ⟨200, .obj [("5", .obj [("name", .str "Sofa")])]⟩) true [],
  .go (.hand 0), .answer (.hand 0) (.ok ⟨200, .obj [
    ("1", .obj [("name", .str "Auto Brightness")]),
    ("2", .obj [("name", .str "Auto Temperature")])]⟩) true []]

/-- A light is added twice at once, beside an empty number, and starts a loop. A light that is added
to one group and removed again may come to the other one at any time. -/
theorem membership_follows_set_algebra_of_repeats :
    let s := (new .default .brief).run managedGroupsListed
    let op := MemberOp.add ["5", "", "5"]
    let join : Enrolment := ⟨true, .brightness, "5", true⟩
    let leave : Enrolment := ⟨false, .brightness, "5", false⟩
    let apart : Enrolment := ⟨true, .temperature, "5", true⟩
    ∃ g, s.state.group? .brightness = some g ∧
      (∀ light, light ∈ op.apply g.lights.members ↔ op.Wants g.lights.members light) ∧
      s.sync.change true (op.change .brightness) = { s.sync with
        state := s.state.modifyGroup .brightness (Group.wanting (.ofList ["5"])) }.claimLoop true ∧
      Run.Reordered s.state.SameEntry [join, leave, apart] [apart, join, leave] ∧
      (Run.after enrol s.sync [join, leave, apart]).silent =
        (Run.after enrol s.sync [apart, join, leave]).silent := by
  intro s op join leave apart
  obtain ⟨sets, reordered⟩ := membership_follows_set_algebra .default .brief managedGroupsListed
  have known : s.state.group? .brightness =
      some ⟨"1", "Auto Brightness", .reset .empty ∅, .reset .empty 0, .reset .empty 0⟩ := by
    decide +kernel
  have order : Run.Reordered s.state.SameEntry [join, leave, apart] [apart, join, leave] :=
    ⟨by decide +kernel, by decide +kernel⟩
  obtain ⟨members, changed⟩ := sets _ _ known op true
  exact ⟨_, known, members, changed, order, reordered _ _ order⟩

end Scene

end LightSync.Reconciler
