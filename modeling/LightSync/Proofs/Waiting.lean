import LightSync.Proofs.LoopStarts
import LightSync.Reconciler.Waiting
import Mathlib.Algebra.GroupWithZero.Nat

/-!
# Waiting until no loop runs

Somebody waits for loops while the reconciler is driven. A loop that runs is always the latest one
that nobody has taken, or the one that is waited for: where a loop is started none runs, so that
whoever waits is about to find the new one. So where none is left to take, none runs.

## Main definitions

- `Attended`, `Attended.next`: a reconciler that is driven, and somebody who waits for its loops
- `Attended.returned`: the number with which the wait ends
- `Attended.completions`: the steps that loops complete, each with its loop
- `Attended.Watched`: every loop that runs is the latest one or is waited for

## Main results

- `Attended.watched_next`: every event keeps an eye on the loop that runs
- `Attended.wait_ends_when_idle`: what holds when the wait ends
-/

namespace LightSync.Reconciler

open Bridge

/-! ## Completed steps -/

section Completed

variable {r t : Reconciler} {i j : Nat}

theorem completedBy_of_loop? (same : t.loop? j = r.loop? j) :
    t.completedBy j = r.completedBy j := by
  rw [completedBy, same, completedBy]

theorem completedBy_modifyLoop (r : Reconciler) {f : Loop → Loop} (kept : ∀ l, (f l).id = l.id) :
    (r.modifyLoop i f).completedBy j =
      if j = i then ((r.loop? j).map fun l => (f l).completed).getD 0 else r.completedBy j := by
  rw [completedBy, loop?_modifyLoop r i j kept, completedBy]
  split
  · rw [Option.map_map]
    rfl
  · rw [Option.map_id]
    rfl

theorem completedBy_setStage (r : Reconciler) (stage : Stage) :
    (r.setStage i stage).completedBy j = r.completedBy j := by
  rw [setStage, completedBy_modifyLoop]
  · split <;> rfl
  · exact fun _ => rfl

theorem completedBy_of_silent (same : t.silent = r.silent) : t.completedBy j = r.completedBy j :=
  completedBy_of_loop? (loop?_of_silent same j)

/-- A loop that is started has completed nothing. -/
theorem MayStart.completedBy (started : MayStart r t) (h : Claimed r) (j : Nat) :
    t.completedBy j = r.completedBy j := by
  cases started with
  | none loops =>
    refine completedBy_of_loop? ?_
    rw [loop?, loops, loop?]
  | one free loops =>
    rw [Reconciler.completedBy, h.loop?_of_started loops, Reconciler.completedBy]
    split
    · next new =>
      subst new
      rw [h.loop?_started]
      rfl
    · rfl

theorem completedBy_wakeLoop (r : Reconciler) (i j : Nat) :
    (r.wakeLoop i).1.completedBy j = r.completedBy j := by
  rcases r.wakeLoop_cases i with
    ⟨same, -⟩ | ⟨l, -, -, woken⟩ | ⟨l, -, -, ⟨-, woken⟩ | ⟨plan, -, woken⟩⟩
  · rw [same]
  · exact (completedBy_of_silent woken).trans (completedBy_setStage r _)
  · exact (completedBy_of_silent woken).trans (completedBy_setStage r.releaseLoop _)
  · exact (completedBy_of_silent woken).trans (completedBy_setStage r _)

theorem completedBy_advanceLoop_failed {l : Loop} (found : r.loop? i = some l) (step : Step)
    (j : Nat) : (r.advanceLoop i (.failed step)).1.completedBy j = r.completedBy j :=
  (completedBy_of_silent (silent_advanceLoop_failed found step)).trans
    (completedBy_setStage r.releaseLoop _)

theorem completedBy_advanceLoop_completed {l : Loop} (found : r.loop? i = some l) (step : Step)
    (j : Nat) : (r.advanceLoop i (.completed step)).1.completedBy j =
      r.completedBy j + [i].count j := by
  have one (r' : Reconciler) (stage : Stage) (same : r'.loops = r.loops) :
      (r'.modifyLoop i fun l' => { l' with completed := l.completed + 1, stage }).completedBy j =
        r.completedBy j + [i].count j := by
    have looks : r'.loop? j = r.loop? j := by rw [loop?, same, loop?]
    rw [completedBy_modifyLoop]
    · split
      · next mine =>
        subst mine
        rw [looks, found, completedBy, found, List.count_singleton_self]
        rfl
      · next other =>
        rw [List.count_eq_zero.2 (by simpa using other)]
        exact completedBy_of_loop? looks
    · exact fun _ => rfl
  have advanced := silent_advanceLoop_completed found step
  split at advanced
  · exact (completedBy_of_silent advanced).trans (one r.releaseLoop .finished rfl)
  · exact (completedBy_of_silent advanced).trans (one r .resting rfl)

end Completed

namespace Scene

variable {s : Scene}

/-- The loop that completes a step in an event. -/
def completionsIn (s : Scene) : Event → List Nat
  | .answer (.loop id) answer _ _ =>
    (s.sync.awaited id).elim [] fun plan =>
      match plan.read answer with
      | .ok _ => [id]
      | .error _ => []
  | _ => []

/-- Loops count the steps that they complete. -/
theorem completedBy_next (h : Claimed s.sync) (e : Event) (j : Nat) :
    (s.next e).sync.completedBy j = s.sync.completedBy j + (s.completionsIn e).count j := by
  cases e with
  | change canRun c => exact (mayStart_change s.sync canRun c).completedBy h j
  | go d =>
    cases d with
    | hand n =>
      rcases s.next_go_hand n with ⟨same, -⟩ | ⟨plan, -, -, going⟩
      · rw [same]
        rfl
      · rw [going]
        exact completedBy_of_silent (silent_announce s.sync plan)
    | loop id => exact completedBy_wakeLoop s.sync id j
  | answer d answer canRun heard =>
    cases waiting : s.underway d with
    | none =>
      rw [next_answer_of_none s waiting]
      cases d with
      | hand n => rfl
      | loop id =>
        have none : s.sync.awaited id = none := waiting
        simp only [completionsIn, none]
        rfl
    | some plan =>
      have taken := (mayStart_conclude s.sync plan answer canRun heard).completedBy h j
      cases d with
      | hand n =>
        rw [next_answer_hand s waiting]
        exact taken
      | loop id =>
        have some : s.sync.awaited id = some plan := waiting
        obtain ⟨l, found, -, advanced⟩ := next_answer_loop s waiting answer canRun heard
        rw [advanced]
        simp only [completionsIn, some, Option.elim_some]
        cases outcome : plan.read answer with
        | error failure =>
          rw [(conclude_of_error outcome s.sync canRun heard).2,
            completedBy_advanceLoop_failed found, taken]
          rfl
        | ok u =>
          rw [(conclude_of_ok outcome s.sync canRun heard).2,
            completedBy_advanceLoop_completed found, taken]

/-- A loop that is finished stays as it is. -/
theorem loop?_next_of_finished (h : Claimed s.sync) (e : Event) {j : Nat} {l : Loop}
    (found : s.sync.loop? j = some l) (ended : l.stage = .finished) :
    (s.next e).sync.loop? j = some l := by
  rcases loops_next_cases h e with started | ⟨id, moves⟩
  · cases started with
    | none loops => rw [loop?, loops, ← found, loop?]
    | one free loops =>
      rw [h.loop?_of_started loops, if_neg ?_, found]
      rintro rfl
      cases h.loop?_started.symm.trans found
  · refine (moves.loop?_of_ne ?_).trans found
    rintro rfl
    obtain ⟨l', found', running⟩ := moves.running
    cases found.symm.trans found'
    exact running ended

end Scene

/-! ## Somebody who waits -/

/-- A reconciler that is driven, and somebody who waits for its loops again and again. -/
structure Attended where
  scene : Scene
  waiting : Waiting
  /-- The loops that were taken since the wait began. -/
  taken : List Nat

namespace Attended

/-- A reconciler that knows nothing of its bridge, before anybody waits. -/
def new (settings : SyncSettings) (wording : Wording) : Attended :=
  ⟨.new settings wording, .done 0, []⟩

abbrev sync (s : Attended) : Reconciler := s.scene.sync

inductive Event where
  /-- A step is made, or a change. -/
  | scene (e : Scene.Event)
  /-- Somebody begins to wait, if nobody waits. -/
  | wait
  /-- Whoever waits looks whether the loop is finished. -/
  | resume

/-- Whoever waits goes on, and may have taken another loop. -/
def goOn (s : Attended) (taken : List Nat) (next : Reconciler × Waiting) : Attended :=
  ⟨{ s.scene with sync := next.1 }, next.2, taken⟩

def next (s : Attended) : Event → Attended
  | .scene e => { s with scene := s.scene.next e }
  | .wait =>
    match s.waiting with
    | .done _ => s.goOn s.sync.latest.toList (s.sync.takeLatest 0)
    | .on .. => s
  | .resume =>
    match s.waiting with
    | .done _ => s
    | .on id _ =>
      s.goOn (s.taken ++ if s.sync.isFinished id then s.sync.latest.toList else [])
        (s.sync.resumeWaiting s.waiting)

abbrev run (s : Attended) (events : List Event) : Attended := Run.after next s events

/-- The number with which a wait ends in an event. -/
def returned (s : Attended) (e : Event) : Option Nat :=
  match e, s.waiting, (s.next e).waiting with
  | .wait, .done _, .done n => some n
  | .resume, .on .., .done n => some n
  | _, _, _ => none

/-- The loop that completes a step in an event. -/
def completionsIn (s : Attended) : Event → List Nat
  | .scene e => s.scene.completionsIn e
  | _ => []

/-- The steps that loops complete in a run, each with its loop. -/
def completions (s : Attended) : List Event → List Nat
  | [] => []
  | e :: events => s.completionsIn e ++ completions (s.next e) events

/-- Every loop that runs is the latest one that nobody has taken, or is waited for, and whoever
waits has counted the steps of the loops that were taken before. -/
structure Watched (s : Attended) : Prop where
  claimed : Claimed s.sync
  held : ∀ id l, s.sync.loop? id = some l → l.stage ≠ .finished →
    s.sync.latest = some id ∨ ∃ total, s.waiting = .on id total
  known : ∀ id ∈ s.taken ++ s.sync.latest.toList, s.sync.loop? id ≠ none
  once : (s.taken ++ s.sync.latest.toList).Nodup
  counts : ∀ id total, s.waiting = .on id total → ∃ earlier, s.taken = earlier ++ [id] ∧
    total = (earlier.map s.sync.completedBy).sum ∧
    ∀ j ∈ earlier, ∃ l, s.sync.loop? j = some l ∧ l.stage = .finished

variable {s t : Attended} {e : Event}

theorem watched_new (settings : SyncSettings) (wording : Wording) :
    (new settings wording).Watched :=
  ⟨Scene.claimed_new settings wording, nofun, nofun, .nil, nofun⟩

/-- The loops that were taken before are finished, so what they completed stays counted. -/
theorem Watched.counts_scene (h : s.Watched) (e : Scene.Event) (id total : Nat)
    (waits : s.waiting = .on id total) : ∃ earlier, s.taken = earlier ++ [id] ∧
      total = (earlier.map (s.scene.next e).sync.completedBy).sum ∧
      ∀ j ∈ earlier, ∃ l, (s.scene.next e).sync.loop? j = some l ∧ l.stage = .finished := by
  have stays {j : Nat} {l : Loop} (found : s.sync.loop? j = some l) (ended : l.stage = .finished) :
      (s.scene.next e).sync.loop? j = some l := Scene.loop?_next_of_finished h.claimed e found ended
  obtain ⟨earlier, taken, sum, finished⟩ := h.counts id total waits
  refine ⟨earlier, taken, ?_, fun j mem => ?_⟩
  · rw [sum]
    refine congrArg List.sum (List.map_congr_left fun j mem => ?_)
    obtain ⟨l, found, ended⟩ := finished j mem
    exact (completedBy_of_loop? ((stays found ended).trans found.symm)).symm
  · obtain ⟨l, found, ended⟩ := finished j mem
    exact ⟨l, stays found ended, ended⟩

/-- Where no loop is started, the one that runs stays in sight. -/
theorem Watched.keep (h : s.Watched) {e : Scene.Event}
    (latest : (s.scene.next e).sync.latest = s.sync.latest)
    (there : ∀ j, s.sync.loop? j ≠ none → (s.scene.next e).sync.loop? j ≠ none)
    (ran : ∀ j l, (s.scene.next e).sync.loop? j = some l → l.stage ≠ .finished →
      ∃ l', s.sync.loop? j = some l' ∧ l'.stage ≠ .finished) : (s.next (.scene e)).Watched := by
  refine ⟨Scene.claimed_next h.claimed e, fun j l found running => ?_, fun j mem => ?_, ?_,
    h.counts_scene e⟩
  · obtain ⟨l', found', running'⟩ := ran j l found running
    have before := h.held j l' found' running'
    rwa [← latest] at before
  · rw [next, latest] at mem
    exact there j (h.known j mem)
  · rw [next, latest]
    exact h.once

/-- Where a loop is started none runs, and the new one is the latest. -/
theorem Watched.start (h : s.Watched) {e : Scene.Event} (free : s.sync.state.looping = false)
    (loops : (s.scene.next e).sync.loops = s.sync.loops ++ [⟨s.sync.started, 0, .fresh⟩])
    (latest : (s.scene.next e).sync.latest = some s.sync.started) :
    (s.next (.scene e)).Watched := by
  have looks := h.claimed.loop?_of_started loops
  have fresh : s.sync.started ∉ s.taken := fun mem =>
    h.known _ (List.mem_append_left _ mem) h.claimed.loop?_started
  refine ⟨Scene.claimed_next h.claimed e, fun j l found running => ?_, fun j mem => ?_, ?_,
    h.counts_scene e⟩
  · rw [next, looks] at found
    split at found
    · next new => exact .inl (new ▸ latest)
    · have mem : l ∈ s.sync.loops := List.mem_of_find?_eq_some found
      exact absurd (h.claimed.stopped free l mem) running
  · rw [next, latest] at mem
    rw [next, looks]
    split
    · exact nofun
    · next old =>
      rcases List.mem_append.1 mem with before | new
      · exact h.known j (List.mem_append_left _ before)
      · exact absurd (by simpa using new) old
  · rw [next, latest]
    have once := (List.nodup_append.1 h.once).1
    exact List.nodup_append.2 ⟨once, by simp, by rintro a mem b new rfl; simp_all⟩

/-- What happens to the reconciler keeps the eye on the loop that runs. -/
theorem Watched.scene (h : s.Watched) (e : Scene.Event) : (s.next (.scene e)).Watched := by
  rcases Scene.loops_next_cases h.claimed e with started | ⟨id, moves⟩
  · cases started with
    | none loops latest =>
      have looks (j : Nat) : (s.scene.next e).sync.loop? j = s.sync.loop? j := by
        rw [loop?, loops, loop?]
      exact h.keep latest (fun j known => looks j ▸ known)
        fun j l found running => ⟨l, looks j ▸ found, running⟩
    | one free loops latest => exact h.start free loops latest
  · refine h.keep moves.latest (fun j => moves.loop?_ne_none) fun j l found running => ?_
    by_cases same : j = id
    · exact same ▸ moves.running
    · exact ⟨l, (moves.loop?_of_ne same).symm.trans found, running⟩

theorem exists_of_isFinished {r : Reconciler} {id : Nat} (ended : r.isFinished id = true)
    (known : r.loop? id ≠ none) : ∃ l, r.loop? id = some l ∧ l.stage = .finished := by
  obtain ⟨l, found⟩ := Option.ne_none_iff_exists'.1 known
  rw [isFinished, found] at ended
  exact ⟨l, found, by simpa using ended⟩

/-- Whoever waits takes the latest loop in an event, after some others that are over. -/
structure Takes (s : Attended) (e : Event) (earlier : List Nat) : Prop where
  kept : earlier.Sublist s.taken
  idle : ∀ id total, s.waiting = .on id total →
    ∃ l, s.sync.loop? id = some l ∧ l.stage = .finished
  done : ∀ j ∈ earlier, ∃ l, s.sync.loop? j = some l ∧ l.stage = .finished
  went : s.next e = s.goOn (earlier ++ s.sync.latest.toList)
    (s.sync.takeLatest (earlier.map s.sync.completedBy).sum)

/-- Where a loop is taken that nobody has taken, whoever takes it keeps an eye on it. -/
theorem Watched.take (h : s.Watched) {earlier : List Nat} (takes : s.Takes e earlier) :
    (s.next e).Watched := by
  have sub : (earlier ++ s.sync.latest.toList).Sublist (s.taken ++ s.sync.latest.toList) :=
    takes.kept.append_right _
  have known := fun j mem => h.known j (sub.subset mem)
  have once := h.once.sublist sub
  -- Nobody waits for a loop that runs, so one that runs is the latest.
  have held (j : Nat) (l : Loop) (found : s.sync.loop? j = some l) (running : l.stage ≠ .finished) :
      s.sync.latest = some j := by
    rcases h.held j l found running with latest | ⟨total, waits⟩
    · exact latest
    · obtain ⟨l', found', ended⟩ := takes.idle j total waits
      cases found.symm.trans found'
      exact absurd ended running
  rw [takes.went]
  cases latest : s.sync.latest with
  | none =>
    simp only [latest, Option.toList_none, List.append_nil] at known once
    simp only [takeLatest, latest, goOn, Option.toList_none, List.append_nil]
    refine ⟨h.claimed, fun j l found running => .inl (held j l found running), ?_, ?_, nofun⟩
    · intro j mem
      exact known j (by simpa [sync, latest] using mem)
    · simpa [sync, latest] using once
  | some id =>
    simp only [latest, Option.toList_some] at known once
    simp only [takeLatest, latest, goOn, Option.toList_some]
    refine ⟨⟨h.claimed.fresh, h.claimed.running, h.claimed.stopped⟩, fun j l found running => ?_,
      ?_, ?_, ?_⟩
    · refine .inr ⟨(earlier.map s.sync.completedBy).sum, ?_⟩
      cases latest.symm.trans (held j l found running)
      rfl
    · intro j mem
      exact known j (by simpa [sync] using mem)
    · simpa [sync] using once
    · rintro j total ⟨⟩
      exact ⟨earlier, rfl, rfl, takes.done⟩

/-- The reconciler is driven, or whoever waits stays where they are or takes the latest loop. -/
theorem Watched.next_cases (h : s.Watched) (e : Event) :
    (∃ e', e = .scene e') ∨ (s.next e = s ∧ s.returned e = none ∧ s.completionsIn e = []) ∨
      ∃ earlier, s.Takes e earlier ∧ s.completionsIn e = [] := by
  cases e with
  | scene e => exact .inl ⟨e, rfl⟩
  | wait =>
    cases waits : s.waiting with
    | on id total =>
      exact .inr (.inl ⟨by simp only [next, waits], by simp only [returned, waits], rfl⟩)
    | done n =>
      refine .inr (.inr ⟨[], ⟨List.nil_sublist _, fun id total other => ?_, nofun, ?_⟩, rfl⟩)
      · cases waits.symm.trans other
      · simp only [next, waits]
        rfl
  | resume =>
    cases waits : s.waiting with
    | done n => exact .inr (.inl ⟨by simp only [next, waits], by simp only [returned, waits], rfl⟩)
    | on id total =>
      cases ended : s.sync.isFinished id with
      | false =>
        have same : s.next .resume = s := by
          simp only [next, waits, resumeWaiting, ended, goOn]
          simp [← waits]
        exact .inr (.inl ⟨same, by simp only [returned, same, waits], rfl⟩)
      | true =>
        obtain ⟨earlier, taken, sum, done⟩ := h.counts id total waits
        have mem : id ∈ s.taken := by rw [taken]; simp
        have here := exists_of_isFinished ended (h.known id (List.mem_append_left _ mem))
        refine .inr (.inr ⟨s.taken, ⟨List.Sublist.refl _, fun j total' waits' => ?_,
          fun j among => ?_, ?_⟩, rfl⟩)
        · cases waits.symm.trans waits'
          exact here
        · rw [taken] at among
          rcases List.mem_append.1 among with before | last
          · exact done j before
          · cases List.mem_singleton.1 last
            exact here
        · simp only [next, waits, resumeWaiting, ended, if_true]
          rw [taken, List.map_append, List.sum_append, sum]
          rfl

/-- Every event keeps an eye on the loop that runs. -/
theorem watched_next (h : s.Watched) (e : Event) : (s.next e).Watched := by
  rcases h.next_cases e with ⟨e', rfl⟩ | ⟨same, -⟩ | ⟨earlier, takes, -⟩
  · exact h.scene e'
  · rw [same]
    exact h
  · exact h.take takes

theorem watched_run (h : s.Watched) (events : List Event) : (s.run events).Watched := by
  induction events generalizing s with
  | nil => exact h
  | cons e rest ih => exact ih (watched_next h e)

/-! ## The end of a wait -/

theorem loop?_takeLatest (r : Reconciler) (total j : Nat) :
    (r.takeLatest total).1.loop? j = r.loop? j := by
  unfold takeLatest
  split <;> rfl

theorem takeLatest_eq_done {r : Reconciler} {total n : Nat}
    (done : (r.takeLatest total).2 = .done n) : r.latest = none ∧ n = total := by
  unfold takeLatest at done
  split at done
  · next none =>
    cases done
    exact ⟨none, rfl⟩
  · cases done

theorem waiting_of_returned {n : Nat} (ends : s.returned e = some n) :
    (s.next e).waiting = .done n := by
  unfold returned at ends
  split at ends
  · next _ waiting =>
    cases ends
    exact waiting
  · next _ waiting =>
    cases ends
    exact waiting
  · cases ends

theorem completedBy_next (h : s.Watched) (e : Event) (j : Nat) :
    (s.next e).sync.completedBy j = s.sync.completedBy j + (s.completionsIn e).count j := by
  rcases h.next_cases e with ⟨e', rfl⟩ | ⟨same, -, nothing⟩ | ⟨earlier, takes, nothing⟩
  · exact Scene.completedBy_next h.claimed e' j
  · rw [same, nothing]
    rfl
  · rw [takes.went, nothing]
    exact completedBy_of_loop? (loop?_takeLatest s.sync _ j)

/-- Loops count the steps that they complete in a run. -/
theorem completedBy_run (h : s.Watched) (events : List Event) (j : Nat) :
    (s.run events).sync.completedBy j = s.sync.completedBy j + (s.completions events).count j := by
  induction events generalizing s with
  | nil => rfl
  | cons e rest ih =>
    refine (ih (watched_next h e)).trans ?_
    rw [completedBy_next h, completions, List.count_append, Nat.add_assoc]

/-- Where a wait ends, no loop is left to take, so none runs. -/
theorem Watched.of_returned (h : s.Watched) {n : Nat} (ends : s.returned e = some n) :
    let t := s.next e
    t.sync.state.looping = false ∧ (∀ l ∈ t.sync.loops, l.stage = .finished) ∧ t.taken.Nodup ∧
      n = (t.taken.map s.sync.completedBy).sum := by
  have done := waiting_of_returned ends
  rcases h.next_cases e with ⟨e', rfl⟩ | ⟨-, never, -⟩ | ⟨earlier, takes, -⟩
  · cases ends
  · cases never.symm.trans ends
  · have went := takes.went
    obtain ⟨none, sum⟩ : s.sync.latest = none ∧ n = (earlier.map s.sync.completedBy).sum := by
      rw [went] at done
      exact takeLatest_eq_done done
    have same : (s.next e).sync = s.sync := by
      simp only [went, goOn, takeLatest, none]
    have taken : (s.next e).taken = earlier := by
      simp only [went, goOn, none, Option.toList_none, List.append_nil]
    -- A loop that ran would be left to take, or be waited for.
    have free : s.sync.state.looping = false := by
      rw [Bool.eq_false_iff]
      intro claim
      obtain ⟨l, found, running⟩ := h.claimed.exists_running claim
      rcases h.held l.id l found running with latest | ⟨total, waits⟩
      · cases none.symm.trans latest
      · obtain ⟨l', found', ended⟩ := takes.idle l.id total waits
        cases found.symm.trans found'
        exact running ended
    have once : s.taken.Nodup := (List.nodup_append.1 h.once).1
    simp only [same, taken]
    exact ⟨free, h.claimed.stopped free, once.sublist takes.kept, sum⟩

/-- A wait ends only when no loop runs. Whoever waits for loops, again and again, while changes are
made, loops start and end and steps are made by hand: when a wait ends, there is no claim, all loops
are finished, and the number with which it ends is that of the steps which the loops completed that
were taken since it began, each once. -/
theorem wait_ends_when_idle (settings : SyncSettings) (wording : Wording) (events : List Event)
    (e : Event) (n : Nat)
    (ends : ((new settings wording).run events).returned e = some n) :
    let s := ((new settings wording).run events).next e
    s.sync.state.looping = false ∧ (∀ l ∈ s.sync.loops, l.stage = .finished) ∧ s.taken.Nodup ∧
      n = (s.taken.map fun id => ((new settings wording).completions events).count id).sum := by
  intro s
  have start := watched_new settings wording
  obtain ⟨free, done, once, sum⟩ := (watched_run start events).of_returned ends
  refine ⟨free, done, once, sum.trans ?_⟩
  refine congrArg List.sum (List.map_congr_left fun j _ => ?_)
  have none : (new settings wording).sync.completedBy j = 0 := rfl
  rw [completedBy_run start, none, Nat.zero_add]

/-- While somebody waits for a loop whose step fails, another loop is started, which lists the
lights before a step fails: the wait ends with one step when both are over. -/
theorem wait_ends_when_idle_of_restart :
    let lost : Answer := .error (.transport "connection reset by peer")
    let listed : Answer := .ok ⟨200, .obj []⟩
    let events : List Event := [
      .scene (.change true .runLoop), .wait, .scene (.go (.loop 0)), .scene (.go (.loop 0)),
      .resume, .scene (.answer (.loop 0) lost true []), .scene (.change true .runLoop), .resume,
      .scene (.go (.loop 1)), .scene (.go (.loop 1)),
      .scene (.answer (.loop 1) listed true []), .scene (.go (.loop 1)),
      .scene (.answer (.loop 1) lost true [])]
    ((new .default .brief).run events).returned .resume = some 1 ∧
      (((new .default .brief).run events).next .resume).taken = [0, 1] ∧
      let s := ((new .default .brief).run events).next .resume
      s.sync.state.looping = false ∧ (∀ l ∈ s.sync.loops, l.stage = .finished) ∧ s.taken.Nodup ∧
        1 = (s.taken.map fun id => ((new .default .brief).completions events).count id).sum := by
  intro lost listed events
  have ends : ((new .default .brief).run events).returned .resume = some 1 := by
    decide +kernel +revert
  have taken : (((new .default .brief).run events).next .resume).taken = [0, 1] := by
    decide +kernel +revert
  exact ⟨ends, taken, wait_ends_when_idle .default _ events .resume 1 ends⟩

end Attended
end LightSync.Reconciler
