import Mathlib
import ReleaseFinder.Proofs.PoolSchedules

/-!
# Occupancy of a pool

How the slots of a pool are used over time. A job holds a slot from its start to its end, and `load`
counts the holders of a moment by these times alone, whatever the schedule. `Occupied` says of every
moment that has passed: as long as some job still had to start, every slot was held.

Schedules keep the clock still while a waiting job has a free slot. That is no wish: a pool that is
polled fills its slots before it looks for the next end, and `Poll.steps` finds these polls among
the schedules. Several jobs that end at one moment free several slots, one poll after another, and
none of these polls moves the clock.
-/

namespace ReleaseFinder

variable {α : Type}

/-- The job holds a slot at a moment: it has started, and its end is still to come. -/
def Started.holdsAt (timeout moment : Nat) (started : Started α) : Bool :=
  decide (started.start ≤ moment ∧ moment < started.finish timeout)

namespace PoolState

/-- How many jobs hold a slot at a moment. -/
def load (timeout : Nat) (state : PoolState α) (moment : Nat) : Nat :=
  state.starts.countP (Started.holdsAt timeout moment)

/-- Some job waits at a moment: it started later or has not started yet. -/
def AwaitsAt (state : PoolState α) (moment : Nat) : Prop :=
  state.waiting ≠ [] ∨ ∃ started ∈ state.starts, moment < started.start

/-- What holds of the past: no job has started before an earlier one, and no slot has been free
while a job was waiting. -/
structure Occupied (limits : PoolLimits) (state : PoolState α) : Prop where
  begun : ∀ started ∈ state.starts, started.start ≤ state.now
  inTurn : state.starts.Pairwise fun first second => first.start ≤ second.start
  full : ∀ moment < state.now, state.AwaitsAt moment →
    state.load limits.timeout moment = limits.slots

/-- At the start, no slot is held. -/
theorem occupied_initial (limits : PoolLimits) (jobs : List (Job α)) :
    Occupied limits (initial jobs) where
  begun := by simp [initial]
  inTurn := List.Pairwise.nil
  full := by simp [initial]

/-- What has started holds a slot or has ended. -/
theorem Orderly.mem_starts {limits : PoolLimits} {jobs : List (Job α)} {state : PoolState α}
    (orderly : Orderly limits jobs state) {started : Started α}
      (running : started ∈ state.running) :
    started ∈ state.starts :=
  orderly.placed.mem_iff.mpr (List.mem_append_right _ running)

/-- From now until the first end, the running jobs are the ones that hold slots. -/
theorem Orderly.load_eq {limits : PoolLimits} {jobs : List (Job α)} {state : PoolState α}
    (orderly : Orderly limits jobs state) (occupied : Occupied limits state) (moment : Nat)
    (since : state.now ≤ moment)
    (ahead : ∀ started ∈ state.running, moment < started.finish limits.timeout) :
    state.load limits.timeout moment = state.running.length := by
  have ended : state.finished.countP (Started.holdsAt limits.timeout moment) = 0 := by
    refine List.countP_eq_zero.mpr fun started member => ?_
    have past := orderly.past started member
    simp only [Started.holdsAt, decide_eq_true_eq]
    omega
  have held : state.running.countP (Started.holdsAt limits.timeout moment) =
      state.running.length := by
    refine List.countP_eq_length.mpr fun started member => ?_
    have begun := occupied.begun started (orderly.mem_starts member)
    have due := ahead started member
    simp only [Started.holdsAt, decide_eq_true_eq]
    omega
  rw [load, orderly.placed.countP_eq, List.countP_append, ended, held, Nat.zero_add]

/-- A start takes the first waiting job, and changes nothing about the moments before it. -/
theorem Occupied.begin {limits : PoolLimits} {state : PoolState α}
    (occupied : Occupied limits state) {job : Job α} {rest : List (Job α)}
    (next : state.waiting = job :: rest) : Occupied limits (state.begin job rest) where
  begun := by
    intro started member
    rcases List.mem_append.mp member with before | last
    · exact occupied.begun started before
    · obtain rfl := List.mem_singleton.mp last
      exact le_rfl
  inTurn := by
    refine List.pairwise_append.mpr ⟨occupied.inTurn, List.pairwise_singleton .., ?_⟩
    intro started before last lastMember
    obtain rfl := List.mem_singleton.mp lastMember
    exact occupied.begun started before
  full := by
    intro moment past _
    have waited : state.AwaitsAt moment := .inl (by simp [next])
    have unheld : Started.holdsAt limits.timeout moment ⟨job, state.now⟩ = false :=
      decide_eq_false fun holds => absurd holds.1 (not_le.mpr past)
    have before := occupied.full moment past waited
    rw [load] at before ⊢
    simp [PoolState.begin, List.countP_append, unheld, before]

/-- An end passes over the moments up to it. Nothing has started in between, so what waits for one
of them is waiting still, and the clock moves only when the slots are full. -/
theorem Occupied.release {limits : PoolLimits} {jobs : List (Job α)} {state : PoolState α}
    (occupied : Occupied limits state) (orderly : Orderly limits jobs state) {started : Started α}
    (remaining : List (Started α)) (running : started ∈ state.running)
    (first : ∀ other ∈ state.running,
      started.finish limits.timeout ≤ other.finish limits.timeout)
    (busy : state.now < started.finish limits.timeout → state.waiting ≠ [] →
      limits.slots ≤ state.running.length) :
    Occupied limits (state.release limits.timeout started remaining) where
  begun := fun other member =>
    (occupied.begun other member).trans (orderly.future started running)
  inTurn := occupied.inTurn
  full := by
    intro moment past awaits
    rcases Nat.lt_or_ge moment state.now with earlier | since
    · exact occupied.full moment earlier awaits
    · have waits : state.waiting ≠ [] := by
        refine awaits.resolve_right ?_
        rintro ⟨other, member, later⟩
        exact absurd (occupied.begun other member) (not_le.mpr (since.trans_lt later))
      have full := busy (since.trans_lt past) waits
      have same := orderly.load_eq occupied moment since
        fun other member => past.trans_le (first other member)
      exact same.trans (orderly.slotted.antisymm full)

/-- Every step keeps the slots occupied. -/
theorem Occupied.step {limits : PoolLimits} {jobs : List (Job α)} {state next : PoolState α}
    (occupied : Occupied limits state) (orderly : Orderly limits jobs state)
    (taken : Step limits state next) : Occupied limits next := by
  cases taken with
  | start job rest next free => exact occupied.begin next
  | finish started before after held first busy =>
    exact occupied.release orderly _ (by simp [held]) first busy

/-- In every state of every schedule the slots have been occupied so far. -/
theorem Reaches.occupied {limits : PoolLimits} {jobs : List (Job α)} {state : PoolState α}
    (reached : Reaches limits jobs state) : Occupied limits state := by
  induction reached with
  | refl => exact occupied_initial limits jobs
  | tail reached taken inductionHypothesis =>
    exact inductionHypothesis.step (Reaches.orderly reached) taken

/-- Each job is waiting, holds a slot or has ended, and is so only once. -/
theorem Orderly.parted {limits : PoolLimits} {jobs : List (Job α)} {state : PoolState α}
    (orderly : Orderly limits jobs state) :
    (state.waiting ++ state.running.map Started.job ++ state.finished.map Started.job).Perm
      jobs := by
  have started : (state.starts.map Started.job).Perm
      (state.running.map Started.job ++ state.finished.map Started.job) := by
    have placed := (orderly.placed.trans List.perm_append_comm).map Started.job
    rwa [List.map_append] at placed
  have apart : (state.waiting ++ state.starts.map Started.job).Perm jobs := by
    have swapped : (state.waiting ++ state.starts.map Started.job).Perm
        (state.starts.map Started.job ++ state.waiting) := List.perm_append_comm
    rwa [orderly.inOrder] at swapped
  rw [List.append_assoc]
  exact (started.symm.append_left state.waiting).trans apart

/-- The pool with its free slots taken by the first waiting jobs. -/
def refill (slots : Nat) (state : PoolState α) : PoolState α :=
  match _ : state.waiting with
  | [] => state
  | job :: rest =>
    if state.running.length < slots then refill slots (state.begin job rest) else state
termination_by state.waiting.length
decreasing_by simp [PoolState.begin, *]

/-- What one poll of a pool comes to: its free slots are filled, and then one of the jobs that end
first is awaited. -/
inductive Poll (limits : PoolLimits) (state : PoolState α) : PoolState α → Prop where
  | ended (started : Started α) (before after : List (Started α))
      (held : (state.refill limits.slots).running = before ++ started :: after)
      (first : ∀ other ∈ (state.refill limits.slots).running,
        started.finish limits.timeout ≤ other.finish limits.timeout) :
      Poll limits state
        ((state.refill limits.slots).release limits.timeout started (before ++ after))

/-- Filling up ends when nothing waits or no slot is free. -/
theorem refill_full (slots : Nat) (state : PoolState α) :
    (state.refill slots).waiting = [] ∨ slots ≤ (state.refill slots).running.length := by
  fun_induction refill slots state with
  | case1 state waiting => exact .inl waiting
  | case2 state job rest waiting free inductionHypothesis => exact inductionHypothesis
  | case3 state job rest waiting full => exact .inr (not_lt.mp full)

/-- Filling up takes time from no one. -/
theorem refill_now (slots : Nat) (state : PoolState α) :
    (state.refill slots).now = state.now := by
  fun_induction refill slots state with
  | case1 state waiting => rfl
  | case2 state job rest waiting free inductionHypothesis => exact inductionHypothesis
  | case3 state job rest waiting full => rfl

/-- Filling up is a number of starts. -/
theorem refill_steps (limits : PoolLimits) (state : PoolState α) :
    Relation.ReflTransGen (Step limits) state (state.refill limits.slots) := by
  fun_induction refill limits.slots state with
  | case1 state waiting => exact .refl
  | case2 state job rest waiting free inductionHypothesis =>
    exact .head (.start job rest waiting free) inductionHypothesis
  | case3 state job rest waiting full => exact .refl

/-- A poll is a piece of a schedule. -/
theorem Poll.steps {limits : PoolLimits} {state next : PoolState α}
    (polled : Poll limits state next) : Relation.ReflTransGen (Step limits) state next := by
  cases polled with
  | ended started before after held first =>
    refine (refill_steps limits state).tail (.finish started before after held first ?_)
    intro _ waits
    exact (refill_full limits.slots state).resolve_left waits

/-- Polls come only to states of schedules. -/
theorem Reaches.of_polls {limits : PoolLimits} {jobs : List (Job α)} {state : PoolState α}
    (polled : Relation.ReflTransGen (Poll limits) (initial jobs) state) :
    Reaches limits jobs state := by
  induction polled with
  | refl => exact .refl
  | tail _ poll inductionHypothesis =>
    exact Relation.ReflTransGen.trans inductionHypothesis poll.steps

/-- A poll finds an end as long as there is a job. -/
theorem exists_poll (limits : PoolLimits) (state : PoolState α)
    (busy : state.waiting ≠ [] ∨ state.running ≠ []) : ∃ next, Poll limits state next := by
  have runs : (state.refill limits.slots).running ≠ [] := by
    fun_induction refill limits.slots state with
    | case1 state waiting => exact busy.resolve_left (by simp [waiting])
    | case2 state job rest waiting free inductionHypothesis =>
      exact inductionHypothesis (.inr (by simp [PoolState.begin]))
    | case3 state job rest waiting full =>
      have crowded := (slots_pos limits).trans_le (not_lt.mp full)
      exact List.ne_nil_of_length_pos crowded
  have some := mt (nextToFinish?_eq_none_iff limits.timeout _).mp runs
  obtain ⟨started, found⟩ := Option.ne_none_iff_exists'.mp some
  obtain ⟨⟨before, after, held, _⟩, first⟩ := nextToFinish?_first _ _ _ found
  exact ⟨_, .ended started before after held first⟩

/-- With any fuel, a run stays on a schedule. -/
theorem Reaches.runFor {limits : PoolLimits} {jobs : List (Job α)} {state : PoolState α}
    (reached : Reaches limits jobs state) (fuel : Nat) :
    Reaches limits jobs (state.runFor limits fuel) := by
  induction fuel generalizing state with
  | zero => exact reached
  | succ fuel inductionHypothesis =>
    rw [PoolState.runFor]
    cases advanced : state.step? limits with
    | none => exact reached
    | some next =>
      have taken := reached.orderly.steps_of_step? advanced
      exact inductionHypothesis (Relation.ReflTransGen.trans reached taken.to_reflTransGen)

/-- The pool that is run moves its clock only when no job could start. -/
theorem full_of_step? {limits : PoolLimits} {state next : PoolState α}
    (advanced : state.step? limits = some next) (later : state.now < next.now)
    (waits : state.waiting ≠ []) : limits.slots ≤ state.running.length := by
  rw [step?] at advanced
  split at advanced
  · obtain rfl := Option.some.inj advanced
    exact absurd later (lt_irrefl state.now)
  · next notStarting =>
    obtain ⟨job, rest, waiting⟩ := List.exists_cons_of_ne_nil waits
    by_contra free
    exact notStarting job rest waiting (decide_eq_true (not_le.mp free))

/-- A step moves the clock only when no job could start. -/
theorem Step.full {limits : PoolLimits} {state next : PoolState α} (taken : Step limits state next)
    (later : state.now < next.now) (waits : state.waiting ≠ []) :
    limits.slots ≤ state.running.length := by
  cases taken with
  | start job rest next free => exact absurd later (lt_irrefl state.now)
  | finish started before after held first busy => exact busy later waits

end PoolState

open PoolState

/-- In every state of every schedule, each job waits, holds a slot or has ended, and only one of
these; no more jobs hold slots than there are; jobs have started in their order; and whenever time
goes on while a job is waiting, every slot is held. So in the times of the starts and ends, every
moment before the last start is one of full load. Polling a pool gives such schedules, and so does
running it. -/
theorem every_moment_is_full (limits : PoolLimits) (jobs : List (Job α)) :
    (∀ state, Reaches limits jobs state →
      (state.waiting ++ state.running.map Started.job ++ state.finished.map Started.job).Perm
          jobs ∧
        state.running.length ≤ max limits.maxConcurrency 1 ∧
        state.starts.map Started.job ++ state.waiting = jobs ∧
        (state.starts.Pairwise fun earlier later => earlier.start ≤ later.start) ∧
        (∀ next, Step limits state next → state.now < next.now → state.waiting ≠ [] →
          state.running.length = max limits.maxConcurrency 1) ∧
        ∀ moment < state.now, state.AwaitsAt moment →
          state.load limits.timeout moment = max limits.maxConcurrency 1) ∧
      (∀ state, Relation.ReflTransGen (Poll limits) (initial jobs) state →
        Reaches limits jobs state ∧
          (state.waiting ≠ [] ∨ state.running ≠ [] → ∃ next, Poll limits state next) ∧
          (state.refill limits.slots).now = state.now ∧
          ((state.refill limits.slots).waiting ≠ [] →
            (state.refill limits.slots).running.length = max limits.maxConcurrency 1)) ∧
      ∀ fuel, Reaches limits jobs ((initial jobs).runFor limits fuel) ∧
        ∀ next, ((initial jobs).runFor limits fuel).step? limits = some next →
          ((initial jobs).runFor limits fuel).now < next.now →
            ((initial jobs).runFor limits fuel).waiting ≠ [] →
              ((initial jobs).runFor limits fuel).running.length = max limits.maxConcurrency 1 := by
  refine ⟨?schedules, ?polls, ?runs⟩
  case schedules =>
    intro state reached
    have orderly := reached.orderly
    have occupied := reached.occupied
    refine ⟨orderly.parted, orderly.slotted, orderly.inOrder, occupied.inTurn, ?_, occupied.full⟩
    intro next taken later waits
    exact orderly.slotted.antisymm (taken.full later waits)
  case polls =>
    intro state polled
    have reached := Reaches.of_polls polled
    have filled : Reaches limits jobs (state.refill limits.slots) :=
      Relation.ReflTransGen.trans reached (refill_steps limits state)
    refine ⟨reached, exists_poll limits state, refill_now limits.slots state, ?_⟩
    intro waits
    exact filled.orderly.slotted.antisymm
      ((refill_full limits.slots state).resolve_left waits)
  case runs =>
    intro fuel
    have reached : Reaches limits jobs ((initial jobs).runFor limits fuel) :=
      Reaches.runFor .refl fuel
    refine ⟨reached, ?_⟩
    intro next advanced later waits
    exact reached.orderly.slotted.antisymm (full_of_step? advanced later waits)

/-- Two slots for three jobs, two of which end at the same moment: the first two wait for their end
together while the third is waiting for a slot. -/
theorem three_jobs_fill_two_slots :
    let limits : PoolLimits := ⟨2, 5⟩
    let jobs : List (Job Nat) :=
      [⟨"first", some 2, .ok 1⟩, ⟨"second", some 2, .ok 2⟩, ⟨"third", none, .ok 3⟩]
    let state := (initial jobs).runFor limits 2
    Reaches limits jobs state ∧ state.waiting.length = 1 ∧
      (state.step? limits).map PoolState.now = some 2 ∧ state.running.length = 2 := by
  intro limits jobs state
  obtain ⟨reached, full⟩ := (every_moment_is_full limits jobs).2.2 2
  refine ⟨reached, rfl, rfl, ?_⟩
  exact full _ rfl (by decide) (by decide)

end ReleaseFinder
