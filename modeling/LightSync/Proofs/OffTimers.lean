import LightSync.Household.OffTimers
import LightSync.Proofs.Run

/-!
# Timers fire at most once, and only while they are current

Timers are started, replaced, cancelled and run out in any order. A timer whose wait is over may get
its turn only after it was replaced or cancelled, if the abort came too late to stop it. So an
expiry may be processed for any timer at any time. It does nothing unless the timer is pending then,
and so it makes no difference whether the abort of a timer that is not came in time.

## Main definitions

- `OffTimers.Event`, `OffTimers.next`, `OffTimers.fired`: what happens, and which jobs run
- `Event.Supersedes`, `Event.Ends`: what takes a timer off the pending ones
- `OffTimers.Current`, `OffTimers.RunsOut`: what became of a timer since it was started
- `OffTimers.Kept`: pending timers and jobs are as the events say
-/

namespace LightSync.Household.OffTimers

variable {α : Type} {t : OffTimers α} {x y : OffTimer α} {entityId : String} {id : Nat}

/-! ## Pending timers -/

/-- At most one timer is pending for an entity. -/
def Single (t : OffTimers α) : Prop := t.pending.Pairwise fun x y => x.entityId ≠ y.entityId

theorem mem_erase : x ∈ (t.erase entityId).pending ↔ x ∈ t.pending ∧ x.entityId ≠ entityId := by
  rw [erase, List.mem_filter, bne_iff_ne]

theorem mem_start {timer : OffTimer α} :
    x ∈ (t.start timer).pending ↔ x = timer ∨ x ∈ t.pending ∧ x.entityId ≠ timer.entityId := by
  rw [start, List.mem_append, mem_erase, List.mem_singleton, or_comm]

theorem Single.erase (h : t.Single) (entityId : String) : (t.erase entityId).Single :=
  List.Pairwise.filter _ h

theorem Single.start (h : t.Single) (timer : OffTimer α) : (t.start timer).Single := by
  refine List.pairwise_append.2 ⟨h.erase _, List.pairwise_singleton .., ?_⟩
  intro x mem y last
  rw [List.mem_singleton.1 last]
  exact (mem_erase.1 mem).2

theorem find?_of_mem (h : t.Single) (mem : x ∈ t.pending) : t.find? x.entityId = some x := by
  obtain ⟨earlier, later, split⟩ := List.append_of_mem mem
  refine List.find?_eq_some_iff_append.2 ⟨decide_eq_true rfl, earlier, later, split, ?_⟩
  intro y before
  rw [Single, split, List.pairwise_append] at h
  have other : y.entityId ≠ x.entityId := h.2.2 y before x (List.mem_cons_self ..)
  rw [decide_eq_false other]
  rfl

theorem Single.eq (h : t.Single) (hx : x ∈ t.pending) (hy : y ∈ t.pending)
    (same : x.entityId = y.entityId) : x = y := by
  have found := find?_of_mem h hx
  rw [same, find?_of_mem h hy] at found
  exact (Option.some.inj found).symm

theorem isPending_iff : t.isPending entityId = true ↔ ∃ x ∈ t.pending, x.entityId = entityId := by
  rw [isPending, find?, List.find?_isSome]
  simp only [decide_eq_true_eq]

/-- The expiry of a pending timer takes it off, and its job is to be done. -/
theorem expire_of_mem (h : t.Single) (mem : x ∈ t.pending) :
    t.expire x.entityId x.id = (t.erase x.entityId, some x.job) := by
  simp only [expire, find?_of_mem h mem, if_true]

/-- The expiry of a timer that is not pending does nothing. -/
theorem expire_of_not_mem (gone : ∀ x ∈ t.pending, ¬ (x.entityId = entityId ∧ x.id = id)) :
    t.expire entityId id = (t, none) := by
  unfold expire
  cases found : t.find? entityId with
  | none => rfl
  | some x =>
    have mem : x ∈ t.pending := List.mem_of_find?_eq_some found
    have found' : t.pending.find? (·.entityId = entityId) = some x := found
    have mine : x.entityId = entityId := by simpa using List.find?_some found'
    have other : x.id ≠ id := fun same => gone x mem ⟨mine, same⟩
    simp only [if_neg other]

theorem mem_expire (h : t.Single) :
    x ∈ (t.expire entityId id).1.pending ↔
      x ∈ t.pending ∧ ¬ (x.entityId = entityId ∧ x.id = id) := by
  by_cases current : ∃ y ∈ t.pending, y.entityId = entityId ∧ y.id = id
  · obtain ⟨y, mem, rfl, rfl⟩ := current
    rw [expire_of_mem h mem, mem_erase]
    refine and_congr_right fun here => ⟨fun other same => other same.1, fun other same => ?_⟩
    exact other ⟨same, congrArg OffTimer.id (h.eq here mem same)⟩
  · have gone (y : OffTimer α) (mem : y ∈ t.pending) :
        ¬ (y.entityId = entityId ∧ y.id = id) := fun here => current ⟨y, mem, here⟩
    rw [expire_of_not_mem gone]
    exact ⟨fun mem => ⟨mem, gone x mem⟩, And.left⟩

/-! ## What happens to timers -/

inductive Event (α : Type) where
  | start (timer : OffTimer α)
  | cancel (entityId : String)
  | cancelAll
  /-- The wait of a timer is over, and it gets its turn. -/
  | expire (entityId : String) (id : Nat)

/-- An event replaces or cancels a timer, if it is pending. -/
def Event.Supersedes (e : Event α) (x : OffTimer α) : Prop :=
  match e with
  | .start later => later.entityId = x.entityId
  | .cancel entityId => entityId = x.entityId
  | .cancelAll => True
  | .expire _ _ => False

/-- An event takes a timer off the pending ones, if it is one of them. -/
def Event.Ends (e : Event α) (x : OffTimer α) : Prop :=
  e.Supersedes x ∨ e = .expire x.entityId x.id

def next (t : OffTimers α) : Event α → OffTimers α
  | .start timer => t.start timer
  | .cancel entityId => (t.cancel entityId).1
  | .cancelAll => t.cancelAll.1
  | .expire entityId id => (t.expire entityId id).1

abbrev run (t : OffTimers α) (events : List (Event α)) : OffTimers α := Run.after next t events

/-- The job that runs in an event, with the id of its timer. -/
def firedIn (t : OffTimers α) : Event α → List (Nat × α)
  | .expire entityId id => ((t.expire entityId id).2.map fun job => (id, job)).toList
  | _ => []

/-- The jobs that run in the course of events. -/
def fired (t : OffTimers α) : List (Event α) → List (Nat × α)
  | [] => []
  | e :: events => t.firedIn e ++ fired (t.next e) events

/-- The ids under which timers are started. -/
def startedIds (events : List (Event α)) : List Nat :=
  events.filterMap fun
    | .start timer => some timer.id
    | _ => none

/-- A timer was started, and nothing ended it since. -/
def Current (events : List (Event α)) (x : OffTimer α) : Prop :=
  ∃ before after, events = before ++ .start x :: after ∧ ∀ e ∈ after, ¬ e.Ends x

/-- The expiry of a timer is processed before anything supersedes it. -/
def RunsOut (after : List (Event α)) (x : OffTimer α) : Prop :=
  ∃ first second, after = first ++ .expire x.entityId x.id :: second ∧
    ∀ e ∈ first, ¬ e.Supersedes x

variable {e : Event α} {events : List (Event α)}

theorem mem_next (h : t.Single) :
    x ∈ (t.next e).pending ↔ e = .start x ∨ x ∈ t.pending ∧ ¬ e.Ends x := by
  cases e with
  | start timer =>
    refine mem_start.trans ?_
    simp only [Event.start.injEq, Event.Ends, Event.Supersedes, reduceCtorEq, or_false]
    exact or_congr eq_comm (and_congr_right fun _ => not_congr eq_comm)
  | cancel entityId =>
    refine mem_erase.trans ?_
    simp only [reduceCtorEq, false_or, Event.Ends, Event.Supersedes, or_false]
    exact and_congr_right fun _ => not_congr eq_comm
  | cancelAll =>
    refine ⟨fun mem => absurd mem List.not_mem_nil, ?_⟩
    rintro (no | ⟨-, stays⟩)
    · cases no
    · exact absurd (.inl trivial) stays
  | expire entityId id =>
    refine (mem_expire h).trans ?_
    simp only [reduceCtorEq, false_or, Event.Ends, Event.Supersedes, Event.expire.injEq]
    exact and_congr_right fun _ => not_congr (and_congr eq_comm eq_comm)

theorem single_next (h : t.Single) (e : Event α) : (t.next e).Single := by
  cases e with
  | start timer => exact h.start timer
  | cancel entityId => exact h.erase entityId
  | cancelAll => exact List.Pairwise.nil
  | expire entityId id =>
    simp only [next, expire]
    split
    · split
      · exact h.erase entityId
      · exact h
    · exact h

theorem not_mem_startedIds_cons :
    id ∉ startedIds (e :: events) ↔ (∀ x, e = .start x → x.id ≠ id) ∧ id ∉ startedIds events := by
  cases e with
  | start timer => simp [startedIds, eq_comm]
  | _ => simp [startedIds]

theorem single_empty : (empty : OffTimers α).Single := List.Pairwise.nil

theorem single_run (h : t.Single) (events : List (Event α)) : (t.run events).Single := by
  induction events generalizing t with
  | nil => exact h
  | cons e rest ih => exact ih (single_next h e)

/-! ## Pending timers are the current ones -/

theorem current_cons :
    Current (e :: events) x ↔ (e = .start x ∧ ∀ e ∈ events, ¬ e.Ends x) ∨ Current events x := by
  constructor
  · rintro ⟨before, after, split, stays⟩
    rcases List.cons_eq_append_iff.1 split with ⟨rfl, same⟩ | ⟨before', rfl, rest⟩
    · obtain ⟨rfl, rfl⟩ := List.cons.inj same
      exact .inl ⟨rfl, stays⟩
    · exact .inr ⟨before', after, rest, stays⟩
  · rintro (⟨rfl, stays⟩ | ⟨before, after, rfl, stays⟩)
    · exact ⟨[], events, rfl, stays⟩
    · exact ⟨e :: before, after, rfl, stays⟩

/-- A timer is pending after some events if it was before and nothing ended it, or if it is current
by the events. -/
theorem mem_run (h : t.Single) :
    x ∈ (t.run events).pending ↔
      (x ∈ t.pending ∧ ∀ e ∈ events, ¬ e.Ends x) ∨ Current events x := by
  induction events generalizing t with
  | nil => simp [Current, Run.after]
  | cons e rest ih =>
    refine (ih (single_next h e)).trans ?_
    rw [mem_next h, current_cons, List.forall_mem_cons, or_and_right, or_assoc, and_assoc]
    exact or_left_comm

/-! ## Jobs run once, when their timer runs out -/

theorem runsOut_cons :
    RunsOut (e :: events) x ↔
      e = .expire x.entityId x.id ∨ ¬ e.Supersedes x ∧ RunsOut events x := by
  constructor
  · rintro ⟨first, second, split, stays⟩
    rcases List.cons_eq_append_iff.1 split with ⟨rfl, same⟩ | ⟨first', rfl, rest⟩
    · exact .inl (List.cons.inj same).1.symm
    · obtain ⟨here, later⟩ := List.forall_mem_cons.1 stays
      exact .inr ⟨here, first', second, rest, later⟩
  · rintro (rfl | ⟨here, first, second, rfl, later⟩)
    · exact ⟨[], events, rfl, nofun⟩
    · exact ⟨e :: first, second, rfl, List.forall_mem_cons.2 ⟨here, later⟩⟩

/-- The jobs that are fired for an id. -/
def firedFor (id : Nat) (jobs : List (Nat × α)) : List (Nat × α) := jobs.filter (·.1 = id)

theorem firedFor_append (first second : List (Nat × α)) :
    firedFor id (first ++ second) = firedFor id first ++ firedFor id second :=
  List.filter_append ..

/-- The expiry of a pending timer fires its job. -/
theorem firedIn_expire (h : t.Single) (mem : x ∈ t.pending) :
    t.firedIn (.expire x.entityId x.id) = [(x.id, x.job)] := by
  rw [firedIn, expire_of_mem h mem]
  rfl

/-- An event that is not the expiry of a pending timer with an id fires nothing for this id. -/
theorem firedFor_firedIn (h : t.Single)
    (other : ∀ x ∈ t.pending, x.id = id → e ≠ .expire x.entityId id) :
    firedFor id (t.firedIn e) = [] := by
  cases e with
  | expire entityId id' =>
    by_cases current : ∃ y ∈ t.pending, y.entityId = entityId ∧ y.id = id'
    · obtain ⟨y, mem, rfl, rfl⟩ := current
      have differ : y.id ≠ id := fun same => other y mem same (by rw [same])
      rw [firedIn_expire h mem]
      simp [firedFor, differ]
    · have gone (y : OffTimer α) (mem : y ∈ t.pending) :
          ¬ (y.entityId = entityId ∧ y.id = id') := fun here => current ⟨y, mem, here⟩
      rw [firedIn, expire_of_not_mem gone]
      rfl
  | _ => rfl

/-- Nothing is fired for an id while no timer with this id is pending or started. -/
theorem fired_of_absent (h : t.Single) (absent : ∀ x ∈ t.pending, x.id ≠ id)
    (unstarted : id ∉ startedIds events) :
    firedFor id (t.fired events) = [] ∧ ∀ x ∈ (t.run events).pending, x.id ≠ id := by
  induction events generalizing t with
  | nil => exact ⟨rfl, absent⟩
  | cons e rest ih =>
    obtain ⟨here, later⟩ := not_mem_startedIds_cons.1 unstarted
    have still (x : OffTimer α) (mem : x ∈ (t.next e).pending) : x.id ≠ id := by
      rcases (mem_next h).1 mem with start | ⟨before, -⟩
      · exact here x start
      · exact absent x before
    obtain ⟨nothing, after⟩ := ih (single_next h e) still later
    refine ⟨?_, after⟩
    rw [fired, firedFor_append, nothing,
      firedFor_firedIn h fun x mem same => absurd same (absent x mem)]
    rfl

/-- After an event that ends the only timer with an id, none with this id is pending. -/
theorem absent_of_ends (h : t.Single) (only : ∀ y ∈ t.pending, y.id = x.id → y = x)
    (unstarted : ∀ y, e = .start y → y.id ≠ x.id) (ends : e.Ends x) :
    ∀ y ∈ (t.next e).pending, y.id ≠ x.id := by
  intro y mem same
  rcases (mem_next h).1 mem with start | ⟨before, stays⟩
  · exact unstarted y start same
  · exact stays (only y before same ▸ ends)

/-- The job of a pending timer runs once if the timer runs out, and not at all otherwise. -/
theorem fired_of_pending (h : t.Single) (mem : x ∈ t.pending)
    (only : ∀ y ∈ t.pending, y.id = x.id → y = x) (unstarted : x.id ∉ startedIds events) :
    (RunsOut events x → firedFor x.id (t.fired events) = [(x.id, x.job)]) ∧
      (¬ RunsOut events x → firedFor x.id (t.fired events) = []) := by
  induction events generalizing t with
  | nil =>
    refine ⟨?_, fun _ => rfl⟩
    rintro ⟨first, second, no, -⟩
    simp at no
  | cons e rest ih =>
    obtain ⟨here, later⟩ := not_mem_startedIds_cons.1 unstarted
    have nextSingle := single_next h e
    rw [runsOut_cons, fired, firedFor_append]
    by_cases own : e = .expire x.entityId x.id
    · obtain ⟨nothing, -⟩ :=
        fired_of_absent nextSingle (absent_of_ends h only here (.inr own)) later
      refine ⟨fun _ => ?_, fun no => absurd (.inl own) no⟩
      rw [nothing, own, firedIn_expire h mem]
      simp [firedFor]
    · -- No other timer has the id, so no other expiry fires anything for it.
      have quiet : firedFor x.id (t.firedIn e) = [] :=
        firedFor_firedIn h fun y there same => only y there same ▸ own
      rw [quiet, List.nil_append]
      by_cases superseded : e.Supersedes x
      · obtain ⟨nothing, -⟩ :=
          fired_of_absent nextSingle (absent_of_ends h only here (.inl superseded)) later
        refine ⟨?_, fun _ => nothing⟩
        rintro (no | ⟨no, -⟩)
        · exact absurd no own
        · exact absurd superseded no
      · have goesOn : ¬ e.Ends x := not_or.2 ⟨superseded, own⟩
        have stays : x ∈ (t.next e).pending := (mem_next h).2 (.inr ⟨mem, goesOn⟩)
        have still (y : OffTimer α) (there : y ∈ (t.next e).pending) (same : y.id = x.id) :
            y = x := by
          rcases (mem_next h).1 there with start | ⟨before, -⟩
          · exact absurd same (here y start)
          · exact only y before same
        simp only [own, superseded, false_or, not_false_eq_true, true_and]
        exact ih nextSingle stays still later

/-! ## Every history -/

theorem fired_append (first second : List (Event α)) :
    t.fired (first ++ second) = t.fired first ++ (t.run first).fired second := by
  induction first generalizing t with
  | nil => rfl
  | cons e rest ih =>
    rw [List.cons_append, fired, ih, fired, List.append_assoc]
    rfl

theorem not_mem_startedIds_of_nodup {before after : List (Event α)}
    (distinct : (startedIds (before ++ .start x :: after)).Nodup) :
    x.id ∉ startedIds before ∧ x.id ∉ startedIds after := by
  have ids : startedIds (before ++ .start x :: after) =
      startedIds before ++ x.id :: startedIds after := List.filterMap_append ..
  rw [ids, List.nodup_append, List.nodup_cons] at distinct
  obtain ⟨-, ⟨later, -⟩, apart⟩ := distinct
  exact ⟨fun mem => apart _ mem _ (List.mem_cons_self ..) rfl, later⟩

/-- The job of a timer that was started under an id of its own runs once if the timer runs out, and
not at all otherwise. -/
theorem fired_of_started {before after : List (Event α)}
    (distinct : (startedIds (before ++ .start x :: after)).Nodup) :
    let jobs := (empty : OffTimers α).fired (before ++ .start x :: after)
    (RunsOut after x → firedFor x.id jobs = [(x.id, x.job)]) ∧
      (¬ RunsOut after x → firedFor x.id jobs = []) := by
  intro jobs
  obtain ⟨earlier, later⟩ := not_mem_startedIds_of_nodup distinct
  let t := (empty : OffTimers α).run before
  have single : t.Single := single_run single_empty before
  obtain ⟨nothing, absent⟩ := fired_of_absent single_empty nofun earlier
  have only (y : OffTimer α) (mem : y ∈ (t.start x).pending) (same : y.id = x.id) : y = x := by
    rcases mem_start.1 mem with is | ⟨old, -⟩
    · exact is
    · exact absurd same (absent y old)
  have since : firedFor x.id jobs = firedFor x.id ((t.start x).fired after) := by
    simp only [jobs, fired_append, firedFor_append, nothing, fired]
    rfl
  rw [since]
  exact fired_of_pending (single.start x) (mem_start.2 (.inl rfl)) only later

/-- The timers that are pending after some events, the jobs that ran, and what happens next, are as
the events say. -/
structure Kept (events : List (Event α)) (t : OffTimers α) (jobs : List (Nat × α)) : Prop where
  single : t.Single
  pending : ∀ x, x ∈ t.pending ↔ Current events x
  fires : ∀ before x after, events = before ++ .start x :: after → RunsOut after x →
    firedFor x.id jobs = [(x.id, x.job)]
  silent : ∀ before x after, events = before ++ .start x :: after → ¬ RunsOut after x →
    firedFor x.id jobs = []
  expire : ∀ entityId id x, x ∈ (t.expire entityId id).1.pending ↔
    x ∈ t.pending ∧ ¬ (x.entityId = entityId ∧ x.id = id)
  late : ∀ entityId id, (∀ x ∈ t.pending, ¬ (x.entityId = entityId ∧ x.id = id)) →
    t.expire entityId id = (t, none)
  found : ∀ entityId, (t.cancel entityId).2 = true ↔ ∃ x ∈ t.pending, x.entityId = entityId
  cancel : ∀ entityId x, x ∈ (t.cancel entityId).1.pending ↔
    x ∈ t.pending ∧ x.entityId ≠ entityId
  cancelAll : t.cancelAll = (empty, t.pending.length)

/-- Timers fire at most once, and only while they are current. In every order of starts under
different ids, cancellations and expiries, also late ones: at most one timer is pending for an
entity, the last one started for it if nothing ended that; the job of a timer runs exactly once if
its expiry is processed before the timer is replaced or cancelled, and not at all otherwise; an
expiry takes off its own timer only, and if that is gone, it does nothing; cancelling says whether
there was a timer and leaves those of other entities; cancelling all says how many there were and
leaves none. -/
theorem fires_once_while_current (events : List (Event α))
    (distinct : (startedIds events).Nodup) :
    Kept events ((empty : OffTimers α).run events) ((empty : OffTimers α).fired events) := by
  have single : ((empty : OffTimers α).run events).Single := single_run single_empty events
  constructor
  · exact single
  · intro x
    rw [mem_run single_empty]
    exact or_iff_right fun ⟨no, _⟩ => List.not_mem_nil no
  · rintro before x after rfl
    exact (fired_of_started distinct).1
  · rintro before x after rfl
    exact (fired_of_started distinct).2
  · exact fun _ _ _ => mem_expire single
  · exact fun _ _ gone => expire_of_not_mem gone
  · exact fun _ => isPending_iff
  · exact fun _ _ => mem_erase
  · rfl

/-- A timer is replaced just before its expiry is processed, which then does nothing. Its successor
fires, and the timer of another entity is cancelled. -/
theorem fires_once_while_current_of_late_expiry :
    let events : List (Event String) := [
      .start ⟨0, "light.a", 5, "first"⟩, .start ⟨1, "light.a", 10, "second"⟩,
      .expire "light.a" 0, .start ⟨2, "light.b", 12, "third"⟩, .expire "light.a" 1,
      .cancel "light.b", .expire "light.b" 2]
    (startedIds events).Nodup ∧ (empty : OffTimers String).fired events = [(1, "second")] ∧
      Kept events ((empty : OffTimers String).run events)
        ((empty : OffTimers String).fired events) := by
  intro events
  have distinct : (startedIds events).Nodup := by decide
  exact ⟨distinct, by decide, fires_once_while_current events distinct⟩

end LightSync.Household.OffTimers
