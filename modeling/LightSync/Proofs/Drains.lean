import LightSync.Proofs.Operations
import LightSync.Reconciler.Driving

/-!
# Steps and drains

A step made by hand has the planned request answered and takes in the answer. Where nothing is left
to do it changes nothing. A drain makes all the steps that there are to make, unless they are more
than it may make.

## Main definitions

- `Environment.serve`: a planned request is answered, and the answer taken in
- `Environment.stepped`, `Environment.Lasts`: steps made by hand, and how many there are to make
- `completedOf`: how many steps of a drain were completed
-/

namespace LightSync.Reconciler

open Bridge

/-- The number of steps that were completed. -/
def completedOf (outcomes : List Outcome) : Nat :=
  outcomes.countP fun
    | .completed _ => true
    | _ => false

theorem completedOf_cons (step : Step) (outcomes : List Outcome) :
    completedOf (.completed step :: outcomes) = completedOf outcomes + 1 :=
  List.countP_cons_of_pos rfl

namespace Environment

variable {ε : Type} [Environment ε] {e : ε} {plan : Plan}

/-! ## One step -/

/-- Has a planned request answered, and takes in the answer. -/
def serve (e : ε) (plan : Plan) : ε × Outcome :=
  let (e, answer) := request e plan.request
  finishStep e plan answer

theorem step_of_plan_none (idle : (sync e).state.plan (sync e).settings = none) :
    step e = (withSync e (sync e), .idle) := by
  have begun : (sync e).begin false = (sync e, none) := by
    simp only [begin, idle, Bool.false_eq_true, if_false]
  simp only [step, begun]

theorem step_of_plan (planned : (sync e).state.plan (sync e).settings = some plan) :
    step e = serve (withSync e ((sync e).announce plan)) plan := by
  have begun : (sync e).begin false = (sync e, some plan) := by
    simp only [begin, planned]
  simp only [step, begun]
  rfl

/-! ## Many steps -/

/-- After some steps made by hand. -/
def stepped (e : ε) : Nat → ε
  | 0 => e
  | n + 1 => stepped (step e).1 n

theorem stepped_add (e : ε) (m n : Nat) : stepped e (m + n) = stepped (stepped e m) n := by
  induction m generalizing e with
  | zero => rw [Nat.zero_add]; rfl
  | succ m ih => rw [Nat.succ_add]; exact ih (step e).1

/-- There are this many steps to make by hand, until nothing is left to do or one has failed. -/
inductive Lasts : ε → Nat → Prop where
  | idle {e : ε} (nothing : (step e).2 = .idle) : Lasts e 0
  | failed {e : ε} {s : Step} (last : (step e).2 = .failed s) : Lasts e 1
  | completed {e : ε} {s : Step} {n : Nat} (made : (step e).2 = .completed s)
    (later : Lasts (step e).1 n) : Lasts e (n + 1)

/-- As long as there are steps to make, there is something to do. -/
theorem Lasts.busy {e : ε} {n k : Nat} (h : Lasts e n) (early : k < n) :
    (step (stepped e k)).2 ≠ .idle := by
  induction h generalizing k with
  | idle => exact absurd early (Nat.not_lt_zero k)
  | failed last =>
    cases Nat.lt_one_iff.1 early
    exact fun idle => nomatch last.symm.trans idle
  | completed made later ih =>
    cases k with
    | zero => exact fun idle => nomatch made.symm.trans idle
    | succ k => exact ih (Nat.lt_of_succ_lt_succ early)

/-- If there is no end of steps, every step is completed. -/
theorem completed_of_endless {e : ε} (endless : ∀ n, ¬ Lasts e n) :
    ∃ s, (step e).2 = .completed s ∧ ∀ n, ¬ Lasts (step e).1 n := by
  cases made : (step e).2 with
  | idle => exact absurd (.idle made) (endless 0)
  | failed s => exact absurd (.failed made) (endless 1)
  | completed s => exact ⟨s, rfl, fun n later => endless (n + 1) (.completed made later)⟩

theorem busy_of_endless {e : ε} (endless : ∀ n, ¬ Lasts e n) (k : Nat) :
    (step (stepped e k)).2 ≠ .idle := by
  induction k generalizing e with
  | zero =>
    obtain ⟨s, made, -⟩ := completed_of_endless endless
    exact fun idle => nomatch made.symm.trans idle
  | succ k ih =>
    obtain ⟨s, -, later⟩ := completed_of_endless endless
    exact ih later

/-! ## Drains -/

section Drain

variable {t : ε} {s : Step}

theorem drainUpTo_of_idle (made : step e = (t, .idle)) (limit : Nat) :
    drainUpTo e (limit + 1) = (t, [.idle]) := by
  rw [drainUpTo, made]

theorem drainUpTo_of_failed (made : step e = (t, .failed s)) (limit : Nat) :
    drainUpTo e (limit + 1) = (t, [.failed s]) := by
  rw [drainUpTo, made]

theorem drainUpTo_of_completed (made : step e = (t, .completed s)) (limit : Nat) :
    drainUpTo e (limit + 1) = ((drainUpTo t limit).1, .completed s :: (drainUpTo t limit).2) := by
  rw [drainUpTo, made]

/-- If there is no end of steps, a drain makes as many as it may. -/
theorem drainUpTo_of_endless (endless : ∀ n, ¬ Lasts e n) (limit : Nat) :
    (drainUpTo e limit).1 = stepped e limit := by
  induction limit generalizing e with
  | zero => rfl
  | succ limit ih =>
    obtain ⟨s, done, later⟩ := completed_of_endless endless
    have made : step e = ((step e).1, .completed s) := by rw [← done]
    rw [drainUpTo_of_completed made]
    exact ih later

end Drain

/-- A drain makes all the steps that there are, or it completes as many as it may. -/
theorem drainUpTo_cases (still : ∀ e : ε, (step e).2 = .idle → step e = (e, .idle)) {n : Nat}
    (lasts : Lasts e n) (limit : Nat) :
    let drained := drainUpTo e limit
    (completedOf drained.2 < limit ∧ n ≤ limit ∧ drained.1 = stepped e n) ∨
    (completedOf drained.2 = limit ∧ limit ≤ n ∧ drained.1 = stepped e limit ∧
      Lasts drained.1 (n - limit)) := by
  induction lasts generalizing limit with
  | @idle e nothing =>
    cases limit with
    | zero => exact .inr ⟨rfl, Nat.le_refl _, rfl, .idle nothing⟩
    | succ limit =>
      rw [drainUpTo_of_idle (still e nothing)]
      exact .inl ⟨Nat.succ_pos _, Nat.zero_le _, rfl⟩
  | @failed e s last =>
    cases limit with
    | zero => exact .inr ⟨rfl, Nat.zero_le _, rfl, .failed last⟩
    | succ limit =>
      have made : step e = ((step e).1, .failed s) := by rw [← last]
      rw [drainUpTo_of_failed made]
      exact .inl ⟨Nat.succ_pos _, Nat.succ_le_succ (Nat.zero_le _), rfl⟩
  | @completed e s n done later ih =>
    cases limit with
    | zero => exact .inr ⟨rfl, Nat.zero_le _, rfl, .completed done later⟩
    | succ limit =>
      have made : step e = ((step e).1, .completed s) := by rw [← done]
      simp only [drainUpTo_of_completed made, completedOf_cons, stepped]
      rcases ih limit with ⟨fewer, all, same⟩ | ⟨count, few, same, more⟩
      · exact .inl ⟨Nat.succ_lt_succ fewer, Nat.succ_le_succ all, same⟩
      · rw [Nat.add_sub_add_right]
        exact .inr ⟨congrArg _ count, Nat.succ_le_succ few, same, more⟩

end Environment
end LightSync.Reconciler
