import LightSync.Reconciler.Change
import LightSync.Reconciler.Update

/-!
# How cells move

A change of what is wanted leaves a cell alone or makes it dirty. A confirmation keeps the value,
and cleans the cell exactly if it confirms the value that the cell holds.

## Main definitions

- `Cell.Rewanted`: what a change can make of a cell
-/

namespace LightSync.Cell

variable {α : Type}

/-- A cell that a change made of another one: the same, or a dirty one that has a value. -/
def Rewanted (before after : Cell α) : Prop :=
  after = before ∨ after.dirty = true ∧ after.value.isSome = true

theorem Rewanted.refl (c : Cell α) : c.Rewanted c := .inl rfl

theorem Rewanted.trans {a b c : Cell α} (first : a.Rewanted b) (second : b.Rewanted c) :
    a.Rewanted c := by
  rcases second with rfl | dirty
  · exact first
  · exact .inr dirty

theorem Rewanted.dirty {before after : Cell α} (h : before.Rewanted after)
    (dirty : before.dirty = true) : after.dirty = true := by
  rcases h with rfl | ⟨made, -⟩
  · exact dirty
  · exact made

/-- A cell that is clean after a change was clean before. -/
theorem Rewanted.clean {before after : Cell α} (h : before.Rewanted after)
    (clean : after.dirty = false) : before.dirty = false := by
  cases dirty : before.dirty with
  | false => rfl
  | true => exact nomatch clean.symm.trans (h.dirty dirty)

theorem Rewanted.value_isSome {before after : Cell α} (h : before.Rewanted after)
    (wanted : before.value.isSome = true) : after.value.isSome = true := by
  rcases h with rfl | ⟨-, made⟩
  · exact wanted
  · exact made

/-! ## Changes -/

theorem set_of_eq [DecidableEq α] [Drift α] {c : Cell α} {value : α}
    (held : c.value = some value) : c.set value = (c, false) := if_pos held

theorem set_of_ne [DecidableEq α] [Drift α] {c : Cell α} {value : α}
    (other : c.value ≠ some value) :
    c.set value = (⟨some value, true, Drift.isMajor c.value value⟩, true) := if_neg other

theorem set_of_not_changed [DecidableEq α] [Drift α] {c : Cell α} {value : α}
    (same : (c.set value).2 = false) : (c.set value).1 = c := by
  by_cases held : c.value = some value
  · rw [set_of_eq held]
  · rw [set_of_ne held] at same
    cases same

theorem set_of_changed [DecidableEq α] [Drift α] {c : Cell α} {value : α}
    (changed : (c.set value).2 = true) :
    (c.set value).1 = ⟨some value, true, Drift.isMajor c.value value⟩ := by
  by_cases held : c.value = some value
  · rw [set_of_eq held] at changed
    cases changed
  · rw [set_of_ne held]

theorem rewanted_set [DecidableEq α] [Drift α] (c : Cell α) (value : α) :
    c.Rewanted (c.set value).1 := by
  unfold set
  split
  · exact .refl c
  · exact .inr ⟨rfl, rfl⟩

theorem rewanted_insert (c : Cell NameSet) (name : String) : c.Rewanted (c.insert name).1 := by
  unfold insert
  split
  · exact .refl c
  · exact .inr ⟨rfl, rfl⟩

theorem rewanted_remove (c : Cell NameSet) (name : String) : c.Rewanted (c.remove name).1 := by
  unfold remove
  split
  · exact .inr ⟨rfl, rfl⟩
  · exact .refl c

/-- An operation on a cell applied for several names in turn, with a note of whether one of them
changed it. -/
private theorem rewanted_foldl {op : Cell NameSet → String → Cell NameSet × Bool}
    (rewanted : ∀ (c : Cell NameSet) name, c.Rewanted (op c name).1) (names : List String)
    (c : Cell NameSet) (changed : Bool) :
    c.Rewanted (names.foldl (fun (c, changed) name => ((op c name).1, (op c name).2 || changed))
      (c, changed)).1 := by
  induction names generalizing c changed with
  | nil => exact .refl c
  | cons name rest ih => exact (rewanted c name).trans (ih _ _)

theorem rewanted_insertAll (c : Cell NameSet) (names : List String) :
    c.Rewanted (c.insertAll names).1 :=
  rewanted_foldl rewanted_insert names c false

theorem rewanted_removeAll (c : Cell NameSet) (names : List String) :
    c.Rewanted (c.removeAll names).1 :=
  rewanted_foldl rewanted_remove names c false

/-! ## Members -/

theorem mem_set {c : Cell NameSet} {lights : NameSet} {light : String}
    (h : light ∈ (c.set lights).1.members) : light ∈ c.members ∨ light ∈ lights := by
  by_cases held : c.value = some lights
  · rw [set_of_eq held] at h
    exact .inl h
  · rw [set_of_ne held] at h
    exact .inr h

theorem mem_insert {c : Cell NameSet} {name light : String} :
    light ∈ (c.insert name).1.members ↔ light = name ∨ light ∈ c.members := by
  unfold insert
  split
  · next there =>
    refine ⟨.inr, ?_⟩
    rintro (rfl | mem)
    · exact there
    · exact mem
  · exact NameSet.mem_insert

theorem mem_remove {c : Cell NameSet} {name light : String} :
    light ∈ (c.remove name).1.members ↔ light ∈ c.members ∧ light ≠ name := by
  unfold remove
  split
  · exact NameSet.mem_erase
  · next absent =>
    refine ⟨fun mem => ⟨mem, ?_⟩, And.left⟩
    rintro rfl
    exact absent mem

/-- An operation on a cell applied for several names in turn changes the cell only if it says so for
one of them. -/
private theorem same_of_foldl {op : Cell NameSet → String → Cell NameSet × Bool}
    (same : ∀ (c : Cell NameSet) name, (op c name).2 = false → (op c name).1 = c)
    (names : List String) (c : Cell NameSet) (changed : Bool) :
    let result := names.foldl
      (fun (c, changed) name => ((op c name).1, (op c name).2 || changed)) (c, changed)
    result.2 = false → changed = false ∧ result.1 = c := by
  induction names generalizing c changed with
  | nil => exact fun no => ⟨no, rfl⟩
  | cons name rest ih =>
    intro result no
    obtain ⟨first, last⟩ := ih (op c name).1 ((op c name).2 || changed) no
    obtain ⟨here, before⟩ := Bool.or_eq_false_iff.1 first
    exact ⟨before, last.trans (same c name here)⟩

theorem insert_of_not_changed {c : Cell NameSet} {name : String}
    (no : (c.insert name).2 = false) : (c.insert name).1 = c := by
  by_cases there : name ∈ c.members
  · rw [insert, if_pos there]
  · rw [insert, if_neg there] at no
    cases no

theorem insert_of_changed {c : Cell NameSet} {name : String} (changed : (c.insert name).2 = true) :
    (c.insert name).1 = ⟨some (c.members.insert name), true, c.major⟩ := by
  by_cases there : name ∈ c.members
  · rw [insert, if_pos there] at changed
    cases changed
  · rw [insert, if_neg there]

theorem remove_of_not_changed {c : Cell NameSet} {name : String}
    (no : (c.remove name).2 = false) : (c.remove name).1 = c := by
  by_cases there : name ∈ c.members
  · rw [remove, if_pos there] at no
    cases no
  · rw [remove, if_neg there]

theorem remove_of_changed {c : Cell NameSet} {name : String} (changed : (c.remove name).2 = true) :
    (c.remove name).1 = ⟨some (c.members.erase name), true, c.major⟩ := by
  by_cases there : name ∈ c.members
  · rw [remove, if_pos there]
  · rw [remove, if_neg there] at changed
    cases changed

theorem insertAll_of_not_changed {c : Cell NameSet} {names : List String}
    (no : (c.insertAll names).2 = false) : (c.insertAll names).1 = c := by
  refine (same_of_foldl (fun _ _ => ?_) names c false no).2
  exact insert_of_not_changed

theorem removeAll_of_not_changed {c : Cell NameSet} {names : List String}
    (no : (c.removeAll names).2 = false) : (c.removeAll names).1 = c := by
  refine (same_of_foldl (fun _ _ => ?_) names c false no).2
  exact remove_of_not_changed

/-- What is wanted after several names were added. -/
theorem mem_insertAll {c : Cell NameSet} {names : List String} {light : String} :
    light ∈ (c.insertAll names).1.members ↔ light ∈ names ∨ light ∈ c.members := by
  unfold insertAll
  generalize false = changed
  induction names generalizing c changed with
  | nil => simp
  | cons name rest ih =>
    rw [List.foldl_cons, ih, mem_insert, List.mem_cons]
    exact or_left_comm.trans or_assoc.symm

/-- What is wanted after several names were removed. -/
theorem mem_removeAll {c : Cell NameSet} {names : List String} {light : String} :
    light ∈ (c.removeAll names).1.members ↔ light ∈ c.members ∧ light ∉ names := by
  unfold removeAll
  generalize false = changed
  induction names generalizing c changed with
  | nil => simp
  | cons name rest ih =>
    rw [List.foldl_cons, ih, mem_remove, List.mem_cons, and_assoc, not_or]

/-! ## Confirmations -/

theorem acknowledge_of_not_cleaned [DecidableEq α] {c : Cell α} {value : α}
    (no : (c.acknowledge value).2 = false) : (c.acknowledge value).1 = c := by
  by_cases held : c.value = some value
  · rw [acknowledge, if_pos held] at no
    cases no
  · rw [acknowledge, if_neg held]

theorem acknowledge_of_cleaned [DecidableEq α] {c : Cell α} {value : α}
    (cleaned : (c.acknowledge value).2 = true) : (c.acknowledge value).1 = c.clean := by
  by_cases held : c.value = some value
  · rw [acknowledge, if_pos held]
  · rw [acknowledge, if_neg held] at cleaned
    cases cleaned

theorem value_confirm [DecidableEq α] (confirmed : Option α) (c : Cell α) :
    (Reconciler.State.confirm confirmed c).value = c.value := by
  unfold Reconciler.State.confirm acknowledge
  split
  · split <;> rfl
  · rfl

theorem confirm_eq_clean [DecidableEq α] {value : α} {c : Cell α} (same : c.value = some value) :
    Reconciler.State.confirm (some value) c = c.clean := by
  simp only [Reconciler.State.confirm, acknowledge, if_pos same]

theorem confirm_of_ne [DecidableEq α] {value : α} {c : Cell α} (other : c.value ≠ some value) :
    Reconciler.State.confirm (some value) c = c := by
  simp only [Reconciler.State.confirm, acknowledge, if_neg other]

/-- A cell that a confirmation cleaned held the confirmed value. -/
theorem value_of_confirm_clean [DecidableEq α] {confirmed : Option α} {c : Cell α}
    (dirty : c.dirty = true) (cleaned : (Reconciler.State.confirm confirmed c).dirty = false) :
    ∃ value, confirmed = some value ∧ c.value = some value := by
  cases confirmed with
  | none =>
    have still : c.dirty = false := cleaned
    rw [dirty] at still
    cases still
  | some value =>
    by_cases same : c.value = some value
    · exact ⟨value, rfl, same⟩
    · simp only [Reconciler.State.confirm, acknowledge, if_neg same] at cleaned
      rw [dirty] at cleaned
      cases cleaned

end LightSync.Cell
