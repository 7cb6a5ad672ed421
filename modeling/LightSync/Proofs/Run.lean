/-!
# Runs of events

A system goes from state to state by events, some of which may be admitted in some states only.
What holds at the start and is kept by every admitted event holds after every run. Where independent
events commute, only the order of the events that depend on each other matters. Where an event can
fail, a run may end with the first one that does.

## Main definitions

- `Run.after`: the state after some events
- `Run.Admitted`: every event is admitted where it happens
- `Run.Reordered`: the same events in another order
- `Run.untilFailure`: events up to the first one that fails
-/

namespace LightSync.Run

variable {σ ε : Type} {next : σ → ε → σ} {ok : σ → ε → Prop}

def after (next : σ → ε → σ) (s : σ) (events : List ε) : σ := events.foldl next s

/-- Every event is admitted in the state in which it happens. -/
def Admitted (next : σ → ε → σ) (ok : σ → ε → Prop) : σ → List ε → Prop
  | _, [] => True
  | s, e :: events => ok s e ∧ Admitted next ok (next s e) events

/-- An invariant kept by every admitted event holds after every run. -/
theorem invariant {holds : σ → Prop} {s : σ} {events : List ε}
    (kept : ∀ s e, holds s → ok s e → holds (next s e))
    (admitted : Admitted next ok s events) (start : holds s) : holds (after next s events) := by
  induction events generalizing s with
  | nil => exact start
  | cons e rest ih =>
    obtain ⟨here, later⟩ := admitted
    exact ih later (kept s e start here)

/-! ## Events in another order -/

/-- The same events, in an order that differs only between events that do not depend on each
other. -/
structure Reordered (dependent : ε → ε → Prop) [DecidableRel dependent]
    (events events' : List ε) : Prop where
  perm : events.Perm events'
  order : ∀ e ∈ events, events.filter (dependent e) = events'.filter (dependent e)

section Reordered

variable {τ : Type} {view : σ → τ} {dependent : ε → ε → Prop} {holds : σ → Prop} {s t : σ}
  {e : ε} {first last rest events events' : List ε}

/-- Where the first event is not among the others, nothing that is selected comes before it. -/
private theorem filter_eq_nil_of_begins {p : ε → Bool} {later : List ε} (absent : e ∉ first)
    (begins : e :: rest = first.filter p ++ later) : first.filter p = [] := by
  cases earlier : first.filter p with
  | nil => rfl
  | cons x xs =>
    rw [earlier, List.cons_append, List.cons.injEq] at begins
    have there : x ∈ first.filter p := earlier ▸ List.mem_cons_self ..
    exact absurd (begins.1 ▸ (List.mem_filter.1 there).1) absent

/-- What comes before the first event in the other order is independent of it. -/
theorem Reordered.independent [DecidableRel dependent]
    (self : ∀ e e', dependent e e' → dependent e e)
    (h : Reordered dependent (e :: rest) (first ++ e :: last)) (absent : e ∉ first) :
    ∀ e' ∈ first, ¬ dependent e e' := by
  intro e' mem depends
  have order := h.order e (List.mem_cons_self ..)
  rw [List.filter_cons_of_pos (by simpa using self e e' depends), List.filter_append] at order
  have nothing := filter_eq_nil_of_begins absent order
  simpa [depends] using List.filter_eq_nil_iff.1 nothing e' mem

/-- Without its first event the rest is reordered too. -/
theorem Reordered.tail [DecidableRel dependent]
    (h : Reordered dependent (e :: rest) (first ++ e :: last)) (absent : e ∉ first) :
    Reordered dependent rest (first ++ last) where
  perm := (h.perm.trans List.perm_middle).cons_inv
  order x mem := by
    have order := h.order x (List.mem_cons_of_mem _ mem)
    rw [List.filter_append] at order ⊢
    by_cases depends : dependent x e
    · rw [List.filter_cons_of_pos (by simpa)] at order
      have nothing := filter_eq_nil_of_begins absent order
      rw [nothing, List.filter_cons_of_pos (by simpa)] at order
      rw [nothing]
      exact (List.cons.inj order).2
    · rwa [List.filter_cons_of_neg (by simpa), List.filter_cons_of_neg (by simpa)] at order

theorem view_after_congr (congr : ∀ s t e, view s = view t → view (next s e) = view (next t e))
    (same : view s = view t) (events : List ε) :
    view (after next s events) = view (after next t events) := by
  induction events generalizing s t with
  | nil => exact same
  | cons e rest ih => exact ih (congr s t e same)

/-- An event may happen before the events that it does not depend on. -/
theorem view_after_middle
    (congr : ∀ s t e, view s = view t → view (next s e) = view (next t e))
    (kept : ∀ s e, holds s → holds (next s e))
    (commute : ∀ s e e', holds s → ¬ dependent e e' →
      view (next (next s e') e) = view (next (next s e) e'))
    (start : holds s) (independent : ∀ e' ∈ first, ¬ dependent e e') (last : List ε) :
    view (after next s (first ++ e :: last)) = view (after next (next s e) (first ++ last)) := by
  induction first generalizing s with
  | nil => rfl
  | cons e' rest ih =>
    have later := ih (kept s e' start) fun x mem => independent x (List.mem_cons_of_mem _ mem)
    have swapped := commute s e e' start (independent e' (List.mem_cons_self ..))
    exact later.trans (view_after_congr congr swapped (rest ++ last))

/-- Where independent events commute, reordered events lead to the same. -/
theorem view_after_of_reordered [DecidableRel dependent]
    (congr : ∀ s t e, view s = view t → view (next s e) = view (next t e))
    (kept : ∀ s e, holds s → holds (next s e))
    (commute : ∀ s e e', holds s → ¬ dependent e e' →
      view (next (next s e') e) = view (next (next s e) e'))
    (self : ∀ e e', dependent e e' → dependent e e)
    (start : holds s) (h : Reordered dependent events events') :
    view (after next s events) = view (after next s events') := by
  induction events generalizing s events' with
  | nil => rw [h.perm.nil_eq]
  | cons e rest ih =>
    have mem : e ∈ events' := h.perm.subset (List.mem_cons_self ..)
    obtain ⟨first, last, rfl, absent⟩ := List.eq_append_cons_of_mem mem
    -- In the other order the first event is moved to the front, past what does not depend on it.
    have moved := view_after_middle congr kept commute start (h.independent self absent) last
    exact (ih (kept s e start) (h.tail absent)).trans moved.symm

end Reordered

/-! ## Events that can fail -/

section Failure

variable {φ : Type} {step : σ → ε → σ × Except φ Unit} {s t : σ} {first second : List ε}
  {failure : φ}

/-- Events one after the other, up to the first one that fails. -/
def untilFailure (step : σ → ε → σ × Except φ Unit) (s : σ) : List ε → σ × Except φ Unit
  | [] => (s, .ok ())
  | e :: rest =>
    match step s e with
    | (s, .ok ()) => untilFailure step s rest
    | (s, .error failure) => (s, .error failure)

theorem untilFailure_single (s : σ) (e : ε) : untilFailure step s [e] = step s e := by
  rcases made : step s e with ⟨t, failure | ⟨⟩⟩
  · simp only [untilFailure, made]
  · simp only [untilFailure, made]

theorem untilFailure_append_of_ok (done : untilFailure step s first = (t, .ok ())) :
    untilFailure step s (first ++ second) = untilFailure step t second := by
  induction first generalizing s with
  | nil =>
    cases done
    rfl
  | cons e rest ih =>
    rcases made : step s e with ⟨between, failure | ⟨⟩⟩
    · simp only [untilFailure, made] at done
      cases done
    · simp only [untilFailure, made] at done
      simp only [List.cons_append, untilFailure, made]
      exact ih done

theorem untilFailure_append_of_error (failed : untilFailure step s first = (t, .error failure)) :
    untilFailure step s (first ++ second) = (t, .error failure) := by
  induction first generalizing s with
  | nil => cases failed
  | cons e rest ih =>
    rcases made : step s e with ⟨between, failure' | ⟨⟩⟩
    · simp only [untilFailure, made] at failed
      simp only [List.cons_append, untilFailure, made, failed]
    · simp only [untilFailure, made] at failed
      simp only [List.cons_append, untilFailure, made]
      exact ih failed

end Failure

end LightSync.Run
