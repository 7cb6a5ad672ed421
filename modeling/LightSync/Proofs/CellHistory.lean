import LightSync.Proofs.Cell
import Mathlib.Data.List.DropRight
import Mathlib.Data.List.Induction

/-!
# The history of a cell

A cell is made, and then operated on. It is confirmed when it is made, whenever it is cleaned, and
whenever the value that it holds is acknowledged. What its flags say is read off the operations that
came after the last confirmation: it is dirty exactly if one of them changed what is wanted, and its
change is major exactly if the last one that did was a jump. A clean cell still holds what was
confirmed.

## Main definitions

- `Kind`: the kinds of values that cells hold; `Kind.IsJump`: changes between distant numbers
- `Operation`, `Cell.run`: operations on a cell, and what a list of them makes of it
- `Step`, `Cell.steps`: an operation with the cell it meets, and all steps of a run
- `Step.confirms`, `Step.changes`: steps that confirm the cell, and steps that want something else
- `Cell.Recalls`: a cell that agrees with the steps that led to it

## Main results

- `Cell.recalls_history`: a cell agrees with its whole history
-/

namespace LightSync.Cell

/-! ## Kinds of values -/

/-- What cells hold: numbers of some width, or sets of names. -/
inductive Kind where
  | uint8
  | uint16
  | uint32
  | int32
  | names

namespace Kind

/-- The values of a kind. -/
def Value : Kind → Type
  | uint8 => UInt8
  | uint16 => UInt16
  | uint32 => UInt32
  | int32 => Int32
  | names => NameSet

instance : (k : Kind) → DecidableEq k.Value
  | uint8 => inferInstanceAs (DecidableEq UInt8)
  | uint16 => inferInstanceAs (DecidableEq UInt16)
  | uint32 => inferInstanceAs (DecidableEq UInt32)
  | int32 => inferInstanceAs (DecidableEq Int32)
  | names => inferInstanceAs (DecidableEq NameSet)

instance : (k : Kind) → Drift k.Value
  | uint8 => inferInstanceAs (Drift UInt8)
  | uint16 => inferInstanceAs (Drift UInt16)
  | uint32 => inferInstanceAs (Drift UInt32)
  | int32 => inferInstanceAs (Drift Int32)
  | names => inferInstanceAs (Drift NameSet)

/-- The integer that a value stands for. A set stands for none. -/
def integer? : (k : Kind) → k.Value → Option Int
  | uint8, v => some (UInt8.toNat v)
  | uint16, v => some (UInt16.toNat v)
  | uint32, v => some (UInt32.toNat v)
  | int32, v => some (Int32.toInt v)
  | names, _ => none

/-- A change to a number from nothing, or from a number that lies more than ten above or below. -/
def IsJump (k : Kind) (before : Option k.Value) (after : k.Value) : Prop :=
  ∃ new, k.integer? after = some new ∧
    ∀ value ∈ before, ∀ old ∈ k.integer? value, old + 10 < new ∨ new + 10 < old

theorem isMajorChange_iff {before : Option Int} {after : Int} :
    isMajorChange before after = true ↔
      ∀ old ∈ before, old + 10 < after ∨ after + 10 < old := by
  cases before with
  | none => simp [isMajorChange]
  | some old =>
    simp only [isMajorChange, decide_eq_true_eq, Option.mem_some_iff, forall_eq']
    unfold majorThreshold
    omega

/-- The changes that count as major are the jumps. -/
theorem isMajor_iff_isJump {k : Kind} {before : Option k.Value} {after : k.Value} :
    Drift.isMajor before after = true ↔ k.IsJump before after := by
  have number {new : Int} (here : k.integer? after = some new) :
      Drift.isMajor before after = isMajorChange (before.bind k.integer?) new := by
    cases k <;> cases here <;> cases before <;> rfl
  cases here : k.integer? after with
  | none =>
    have never : Drift.isMajor before after = false := by
      cases k <;> first | rfl | cases here
    simp [never, IsJump, here]
  | some new =>
    rw [number here, isMajorChange_iff, IsJump]
    simp only [here, Option.some.injEq, exists_eq_left', Option.mem_def, Option.bind_eq_some_iff]
    exact ⟨fun h value held old stands => h old ⟨value, held, stands⟩,
      fun h old ⟨value, held, stands⟩ => h value held old stands⟩

end Kind

/-! ## Operations and steps -/

/-- What is done to a cell that was made. Single members come and go in sets only. -/
inductive Operation : Kind → Type where
  | set {k : Kind} (value : k.Value) : Operation k
  | reset {k : Kind} (value : k.Value) : Operation k
  | clean {k : Kind} : Operation k
  | acknowledge {k : Kind} (value : k.Value) : Operation k
  | insert (name : String) : Operation .names
  | remove (name : String) : Operation .names

variable {k : Kind}

/-- A cell with the answer of the operation that made it. -/
def answered {α : Type} (result : Cell α × Bool) : Cell α × Option Bool := (result.1, some result.2)

/-- The cell after an operation, and the answer of the operation if it has one. -/
def Operation.apply : {k : Kind} → Operation k → Cell k.Value → Cell k.Value × Option Bool
  | _, .set value, c => answered (c.set value)
  | _, .reset value, c => (c.reset value, none)
  | _, .clean, c => (c.clean, none)
  | _, .acknowledge value, c => answered (c.acknowledge value)
  | _, .insert name, c => answered (Cell.insert c name)
  | _, .remove name, c => answered (Cell.remove c name)

/-- A cell as it is made: without a value, or with one that is confirmed. -/
def made : Option k.Value → Cell k.Value
  | none => empty
  | some value => confirmed value

/-- An operation together with the cell that it meets. -/
structure Step (k : Kind) where
  operation : Operation k
  before : Cell k.Value

namespace Step

def after (s : Step k) : Cell k.Value := (s.operation.apply s.before).1

def answer (s : Step k) : Option Bool := (s.operation.apply s.before).2

/-- Does the step take what the cell holds as confirmed? -/
def confirms (s : Step k) : Bool :=
  match s.operation with
  | .clean => true
  | .acknowledge _ => s.answer == some true
  | _ => false

/-- Does the step want something: a reset, or another operation that says it changed the cell? -/
def changes (s : Step k) : Bool :=
  match s.operation with
  | .reset _ => true
  | .clean | .acknowledge _ => false
  | _ => s.answer == some true

/-- The step sets a number that is far from the one before. -/
def IsJump (s : Step k) : Prop :=
  ∃ value, s.operation = .set value ∧ s.answer = some true ∧ k.IsJump s.before.value value

end Step

def run (c : Cell k.Value) (operations : List (Operation k)) : Cell k.Value :=
  operations.foldl (fun c operation => (operation.apply c).1) c

/-- All steps that operations make, the first one first. -/
def steps (c : Cell k.Value) : List (Operation k) → List (Step k)
  | [] => []
  | operation :: rest => ⟨operation, c⟩ :: steps (operation.apply c).1 rest

theorem run_concat (c : Cell k.Value) (operations : List (Operation k)) (last : Operation k) :
    c.run (operations ++ [last]) = (last.apply (c.run operations)).1 := by
  rw [run, List.foldl_append]
  rfl

theorem steps_concat (c : Cell k.Value) (operations : List (Operation k)) (last : Operation k) :
    c.steps (operations ++ [last]) = c.steps operations ++ [⟨last, c.run operations⟩] := by
  induction operations generalizing c with
  | nil => rfl
  | cons operation rest ih => exact congrArg _ (ih _)

/-! ## What steps leave behind -/

/-- The steps after the last one that confirms the cell. -/
def unconfirmed (passed : List (Step k)) : List (Step k) := passed.rtakeWhile fun s => !s.confirms

/-- The cell as it was confirmed for the last time, which is as it was made if no step confirms. -/
def lastConfirmed (start : Cell k.Value) (passed : List (Step k)) : Cell k.Value :=
  ((passed.filter (·.confirms)).getLast?.map Step.after).getD start

/-- The last step that changes what is wanted, among those that are not confirmed. -/
def lastChange (passed : List (Step k)) : Option (Step k) :=
  ((unconfirmed passed).filter (·.changes)).getLast?

/-- A cell whose flags and value agree with the steps that led to it. -/
structure Recalls (start : Cell k.Value) (passed : List (Step k)) (c : Cell k.Value) : Prop where
  dirty_of_major : c.major = true → c.dirty = true
  value_of_dirty : c.dirty = true → c.value.isSome = true
  dirty_iff : c.dirty = true ↔ ∃ s ∈ unconfirmed passed, s.changes = true
  major_iff : c.major = true ↔ ∃ s, lastChange passed = some s ∧ s.IsJump
  value_of_clean : c.dirty = false → c.value = (lastConfirmed start passed).value

/-- What a step does to its cell. -/
inductive Step.Does (s : Step k) : Prop where
  | confirm (confirms : s.confirms = true) (after : s.after = s.before.clean)
  | change {value : k.Value} {major : Bool} (confirms : s.confirms = false)
    (changes : s.changes = true) (after : s.after = ⟨some value, true, major⟩)
    (jump : major = true ↔ s.IsJump)
  | nothing (confirms : s.confirms = false) (changes : s.changes = false)
    (after : s.after = s.before)

/-- An operation that answers no leaves its cell alone. -/
theorem Step.after_of_refused {s : Step k} (no : s.answer = some false) : s.after = s.before := by
  obtain ⟨operation, c⟩ := s
  have no := no
  cases operation with
  | set value => exact set_of_not_changed (Option.some.inj no)
  | acknowledge value => exact acknowledge_of_not_cleaned (Option.some.inj no)
  | insert name => exact insert_of_not_changed (Option.some.inj no)
  | remove name => exact remove_of_not_changed (Option.some.inj no)
  | reset | clean => cases no

/-- A step confirms its cell, or changes what is wanted, or does nothing. The coming and going of
single members leaves the kind of the change alone, so no change of a set may count as major. -/
theorem Step.does (s : Step k) (minor : k = .names → s.before.major = false) : s.Does := by
  obtain ⟨operation, c⟩ := s
  have told {b answer : Bool} (h : b = answer) : (some b == some true) = answer := by
    cases b <;> exact h
  -- Only setting a number can be a jump, so every other change has to be minor.
  have never {b : Bool} {s : Step k} (h : b = false) (other : ∀ value, s.operation ≠ .set value) :
      b = true ↔ s.IsJump :=
    ⟨fun no => (nomatch h.symm.trans no), fun ⟨value, same, _⟩ => absurd same (other value)⟩
  cases operation with
  | set value =>
    cases changed : (c.set value).2 with
    | false => exact .nothing rfl (told changed) (set_of_not_changed changed)
    | true =>
      refine .change rfl (told changed) (set_of_changed changed) ?_
      refine Kind.isMajor_iff_isJump.trans ⟨fun far => ⟨value, rfl, congrArg some changed, far⟩, ?_⟩
      rintro ⟨_, same, -, far⟩
      cases same
      exact far
  | reset value => exact .change rfl rfl rfl (never rfl nofun)
  | clean => exact .confirm rfl rfl
  | acknowledge value =>
    cases cleaned : (c.acknowledge value).2 with
    | false => exact .nothing (told cleaned) rfl (acknowledge_of_not_cleaned cleaned)
    | true => exact .confirm (told cleaned) (acknowledge_of_cleaned cleaned)
  | insert name =>
    cases changed : (Cell.insert c name).2 with
    | false => exact .nothing rfl (told changed) (insert_of_not_changed changed)
    | true =>
      exact .change rfl (told changed) (insert_of_changed changed) (never (minor rfl) nofun)
  | remove name =>
    cases changed : (Cell.remove c name).2 with
    | false => exact .nothing rfl (told changed) (remove_of_not_changed changed)
    | true =>
      exact .change rfl (told changed) (remove_of_changed changed) (never (minor rfl) nofun)

/-! ## Runs -/

section Recalls

variable {start c : Cell k.Value} {passed : List (Step k)} {s : Step k}

theorem unconfirmed_of_confirms (h : s.confirms = true) : unconfirmed (passed ++ [s]) = [] :=
  List.rtakeWhile_concat_neg _ _ _ (by simp [h])

theorem unconfirmed_concat (h : s.confirms = false) :
    unconfirmed (passed ++ [s]) = unconfirmed passed ++ [s] :=
  List.rtakeWhile_concat_pos _ _ _ (by simp [h])

theorem lastConfirmed_of_confirms (h : s.confirms = true) :
    lastConfirmed start (passed ++ [s]) = s.after := by
  simp [lastConfirmed, h]

theorem lastConfirmed_concat (h : s.confirms = false) :
    lastConfirmed start (passed ++ [s]) = lastConfirmed start passed := by
  simp [lastConfirmed, h]

theorem lastChange_of_changes (h : s.confirms = false) (changes : s.changes = true) :
    lastChange (passed ++ [s]) = some s := by
  simp [lastChange, unconfirmed_concat h, changes]

theorem lastChange_concat (h : s.confirms = false) (same : s.changes = false) :
    lastChange (passed ++ [s]) = lastChange passed := by
  simp [lastChange, unconfirmed_concat h, same]

/-- A cell that was just made recalls that nothing happened to it. -/
theorem recalls_made (initial : Option k.Value) : Recalls (made initial) [] (made initial) := by
  have clean : (made initial).dirty = false ∧ (made initial).major = false := by
    cases initial <;> exact ⟨rfl, rfl⟩
  refine ⟨?_, ?_, ?_, ?_, fun _ => rfl⟩ <;> simp [clean, unconfirmed, lastChange]

/-- No change of a set counts as major. -/
theorem Recalls.minor (h : Recalls start passed c) (sets : k = .names) : c.major = false := by
  subst sets
  refine Bool.eq_false_iff.2 fun major => ?_
  obtain ⟨_, -, _, -, -, _, no, -⟩ := h.major_iff.1 major
  cases no

/-- A cell that agrees with its history still does after one more step. -/
theorem Recalls.step (h : Recalls start passed c) (operation : Operation k) :
    Recalls start (passed ++ [⟨operation, c⟩]) (operation.apply c).1 := by
  change Recalls start _ (Step.mk operation c).after
  cases (Step.mk operation c).does h.minor with
  | confirm confirms after =>
    have nothing : unconfirmed (passed ++ [⟨operation, c⟩]) = [] :=
      unconfirmed_of_confirms confirms
    rw [after]
    refine ⟨nofun, nofun, ?_, ?_, fun _ => ?_⟩
    · simp [nothing, clean]
    · simp [lastChange, nothing, clean]
    · rw [lastConfirmed_of_confirms confirms, after]
  | change confirms changes after jump =>
    -- The new step is the last change, whatever came before it.
    rw [after]
    refine ⟨fun _ => rfl, fun _ => rfl, ⟨fun _ => ?_, fun _ => rfl⟩, ?_, nofun⟩
    · exact ⟨_, by rw [unconfirmed_concat confirms]; simp, changes⟩
    · simp [lastChange_of_changes confirms changes, jump]
  | nothing confirms same after =>
    rw [after]
    refine ⟨h.dirty_of_major, h.value_of_dirty, ?_, ?_, fun clean => ?_⟩
    · simp [h.dirty_iff, unconfirmed_concat confirms, or_and_right, exists_or, same]
    · rw [h.major_iff, lastChange_concat confirms same]
    · rw [h.value_of_clean clean, lastConfirmed_concat confirms]

end Recalls

/-- A cell agrees with its whole history: it is dirty exactly if something changed what is wanted
since it was last confirmed, and then it has a value; its change is major exactly if the last thing
that did was a jump; clean, it holds what was confirmed last. Operations that answer no leave it
alone. -/
theorem recalls_history (initial : Option k.Value) (operations : List (Operation k)) :
    let start := made initial
    Recalls start (start.steps operations) (start.run operations) ∧
      ∀ s ∈ start.steps operations, s.answer = some false → s.after = s.before := by
  refine ⟨?_, fun s _ => Step.after_of_refused⟩
  -- From the end, since the newest step decides which confirmation is the last one.
  induction operations using List.reverseRecOn with
  | nil => exact recalls_made initial
  | append_singleton operations last ih =>
    rw [steps_concat, run_concat]
    exact ih.step last

/-- Going back to the confirmed value does not confirm it: the other one may be on its way. -/
example : ((made (k := .uint8) (some (100 : UInt8))).run
    [.set (120 : UInt8), .set (100 : UInt8)]).dirty = true := rfl

end LightSync.Cell
