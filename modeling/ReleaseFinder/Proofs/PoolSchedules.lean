import Mathlib
import ReleaseFinder.Pool

/-!
# Schedules of a pool

A pool does one thing at a time: the next waiting job takes a free slot, or a job whose end is due
gives its slot back. Which of several jobs that end at one moment is noticed first is open, and so
is whether a slot that has become free is taken before or after the next of them is noticed. Only
the clock is strict: it does not move on while a waiting job has a free slot to take.

`Orderly` is what every step keeps, and so what holds in every state that any schedule reaches. The
pool that is run takes one of these schedules, which `runPool_complete` states, and no schedule gets
stuck or goes on for ever.
-/

namespace ReleaseFinder

namespace PoolState

variable {α : Type}

/-- The pool after the first waiting job has taken a slot. -/
def begin (state : PoolState α) (job : Job α) (rest : List (Job α)) : PoolState α :=
  { state with
    waiting := rest
    running := state.running ++ [⟨job, state.now⟩]
    starts := state.starts ++ [⟨job, state.now⟩]
    peak := max state.peak (state.running.length + 1) }

/-- The pool after a job has ended and left its slot to others. -/
def release (timeout : Nat) (state : PoolState α) (started : Started α)
    (remaining : List (Started α)) : PoolState α :=
  { state with
    now := started.finish timeout
    running := remaining
    finished := state.finished ++ [started] }

/-- What a pool may do next. A job that ends is one of those that end first, and if the clock has to
move on to its end, no waiting job could have started before. -/
inductive Step (limits : PoolLimits) (state : PoolState α) : PoolState α → Prop where
  | start (job : Job α) (rest : List (Job α)) (next : state.waiting = job :: rest)
      (free : state.running.length < limits.slots) : Step limits state (state.begin job rest)
  | finish (started : Started α) (before after : List (Started α))
      (held : state.running = before ++ started :: after)
      (first : ∀ other ∈ state.running,
        started.finish limits.timeout ≤ other.finish limits.timeout)
      (busy : state.now < started.finish limits.timeout → state.waiting ≠ [] →
        limits.slots ≤ state.running.length) :
      Step limits state (state.release limits.timeout started (before ++ after))

/-- Some schedule of the jobs comes to this state. -/
def Reaches (limits : PoolLimits) (jobs : List (Job α)) (state : PoolState α) : Prop :=
  Relation.ReflTransGen (Step limits) (initial jobs) state

/-- What holds at every moment: jobs start in their order, and what has started has ended or holds
one of the slots. Ends are noticed in their order and not before they are due. -/
structure Orderly (limits : PoolLimits) (jobs : List (Job α)) (state : PoolState α) : Prop where
  inOrder : state.starts.map Started.job ++ state.waiting = jobs
  placed : state.starts.Perm (state.finished ++ state.running)
  slotted : state.running.length ≤ limits.slots
  past : ∀ started ∈ state.finished, started.finish limits.timeout ≤ state.now
  future : ∀ started ∈ state.running, state.now ≤ started.finish limits.timeout
  ends : state.finished.Pairwise fun first second =>
    first.finish limits.timeout ≤ second.finish limits.timeout

/-- There is always a slot. -/
theorem slots_pos (limits : PoolLimits) : 0 < limits.slots :=
  Nat.lt_of_lt_of_le Nat.zero_lt_one (Nat.le_max_right limits.maxConcurrency 1)

/-- At the start, all jobs are waiting in their order. -/
theorem orderly_initial (limits : PoolLimits) (jobs : List (Job α)) :
    Orderly limits jobs (initial jobs) where
  inOrder := rfl
  placed := List.Perm.refl _
  slotted := Nat.zero_le _
  past := by simp [initial]
  future := by simp [initial]
  ends := List.Pairwise.nil

/-- A start keeps the order. -/
theorem Orderly.begin {limits : PoolLimits} {jobs : List (Job α)} {state : PoolState α}
    (orderly : Orderly limits jobs state) {job : Job α} {rest : List (Job α)}
    (next : state.waiting = job :: rest) (free : state.running.length < limits.slots) :
    Orderly limits jobs (state.begin job rest) where
  inOrder := by
    have same := orderly.inOrder
    rw [next] at same
    simpa [PoolState.begin] using same
  placed := by
    have added := orderly.placed.append_right [⟨job, state.now⟩]
    rwa [List.append_assoc] at added
  slotted := by
    simpa [PoolState.begin] using free
  past := orderly.past
  future := by
    intro started member
    rcases List.mem_append.mp member with before | last
    · exact orderly.future started before
    · obtain rfl := List.mem_singleton.mp last
      exact Nat.le_add_right state.now _
  ends := orderly.ends

/-- An end keeps the order. -/
theorem Orderly.release {limits : PoolLimits} {jobs : List (Job α)} {state : PoolState α}
    (orderly : Orderly limits jobs state) {started : Started α} {before after : List (Started α)}
    (held : state.running = before ++ started :: after)
    (first : ∀ other ∈ state.running,
      started.finish limits.timeout ≤ other.finish limits.timeout) :
    Orderly limits jobs (state.release limits.timeout started (before ++ after)) := by
  have running : started ∈ state.running := by simp [held]
  have due : state.now ≤ started.finish limits.timeout := orderly.future started running
  have latest (other : Started α) (ended : other ∈ state.finished) :
      other.finish limits.timeout ≤ started.finish limits.timeout :=
    (orderly.past other ended).trans due
  refine ⟨orderly.inOrder, ?placed, ?slotted, ?past, ?future, ?ends⟩
  case placed =>
    have moved : (before ++ started :: after).Perm (started :: (before ++ after)) :=
      List.perm_middle
    have placed := orderly.placed
    rw [held] at placed
    simpa [PoolState.release] using placed.trans (moved.append_left state.finished)
  case slotted =>
    have slotted := orderly.slotted
    simp only [held, List.length_append, List.length_cons] at slotted
    simp only [PoolState.release, List.length_append]
    omega
  case past =>
    intro other ended
    rcases List.mem_append.mp ended with earlier | last
    · exact latest other earlier
    · obtain rfl := List.mem_singleton.mp last
      exact le_rfl
  case future =>
    intro other remaining
    refine first other ?_
    rw [held]
    rcases List.mem_append.mp remaining with member | member
    · exact List.mem_append_left _ member
    · exact List.mem_append_right _ (List.mem_cons_of_mem _ member)
  case ends =>
    refine List.pairwise_append.mpr ⟨orderly.ends, List.pairwise_singleton .., ?_⟩
    intro other ended last lastMember
    obtain rfl := List.mem_singleton.mp lastMember
    exact latest other ended

/-- Every step keeps the order. -/
theorem Orderly.step {limits : PoolLimits} {jobs : List (Job α)} {state next : PoolState α}
    (orderly : Orderly limits jobs state) (taken : Step limits state next) :
    Orderly limits jobs next := by
  cases taken with
  | start job rest next free => exact orderly.begin next free
  | finish started before after held first busy => exact orderly.release held first

/-- Every state of every schedule is orderly. -/
theorem Reaches.orderly {limits : PoolLimits} {jobs : List (Job α)} {state : PoolState α}
    (reached : Reaches limits jobs state) : Orderly limits jobs state := by
  induction reached with
  | refl => exact orderly_initial limits jobs
  | tail _ taken inductionHypothesis => exact inductionHypothesis.step taken

/-- Looking for the job that ends first fails only if no job is running. -/
theorem nextToFinish?_eq_none_iff (timeout : Nat) (running : List (Started α)) :
    nextToFinish? timeout running = none ↔ running = [] := by
  cases running with
  | nil => simp [nextToFinish?]
  | cons started rest =>
    rw [nextToFinish?]
    cases nextToFinish? timeout rest with
    | none => simp
    | some other =>
      by_cases sooner : other.finish timeout < started.finish timeout <;> simp [sooner]

/-- The job found ends no later than any other, and it alone is taken out. The job in front is
passed over only for one that ends before it, so the induction's bound covers it too. -/
theorem nextToFinish?_first (timeout : Nat) (running : List (Started α)) (next : Started α)
    (found : nextToFinish? timeout running = some next) :
    (∃ before after, running = before ++ next :: after ∧
        withoutNext timeout running = before ++ after) ∧
      ∀ other ∈ running, next.finish timeout ≤ other.finish timeout := by
  induction running generalizing next with
  | nil => cases found
  | cons started rest inductionHypothesis =>
    rw [nextToFinish?] at found
    rw [withoutNext]
    cases later : nextToFinish? timeout rest with
    | none =>
      obtain rfl := (nextToFinish?_eq_none_iff timeout rest).mp later
      obtain rfl : started = next := by simpa [later] using found
      exact ⟨⟨[], [], rfl, rfl⟩, by simp⟩
    | some other =>
      obtain ⟨⟨before, after, split, remaining⟩, first⟩ := inductionHypothesis other later
      by_cases sooner : other.finish timeout < started.finish timeout
      · obtain rfl : other = next := by simpa [later, sooner] using found
        refine ⟨⟨started :: before, after, by rw [split]; rfl, by simp [sooner, remaining]⟩, ?_⟩
        intro candidate member
        rcases List.mem_cons.mp member with rfl | member
        · exact le_of_lt sooner
        · exact first candidate member
      · obtain rfl : started = next := by simpa [later, sooner] using found
        refine ⟨⟨[], rest, rfl, by simp [sooner]⟩, ?_⟩
        intro candidate member
        rcases List.mem_cons.mp member with rfl | member
        · exact le_rfl
        · exact (not_lt.mp sooner).trans (first candidate member)

/-- The next job starts in one step, and if it takes no time, it ends in another. -/
theorem Orderly.startNext {limits : PoolLimits} {jobs : List (Job α)} {state : PoolState α}
    (orderly : Orderly limits jobs state) {job : Job α} {rest : List (Job α)}
    (next : state.waiting = job :: rest) (free : state.running.length < limits.slots) :
    Relation.TransGen (Step limits) state (state.startNext limits.timeout job rest) := by
  have taken : Relation.TransGen (Step limits) state (state.begin job rest) :=
    .single (.start job rest next free)
  by_cases atOnce : job.duration limits.timeout = 0
  · have now : Started.finish ⟨job, state.now⟩ limits.timeout = state.now := by
      simp [Started.finish, atOnce]
    have left : Step limits (state.begin job rest)
        ((state.begin job rest).release limits.timeout ⟨job, state.now⟩ (state.running ++ [])) := by
      refine .finish ⟨job, state.now⟩ state.running [] rfl ?_ ?_
      · rw [now]
        exact (orderly.begin next free).future
      · intro later
        exact absurd now (ne_of_gt later)
    have same : (state.begin job rest).release limits.timeout ⟨job, state.now⟩
        (state.running ++ []) = state.startNext limits.timeout job rest := by
      simp [PoolState.startNext, PoolState.begin, PoolState.release, atOnce, now]
    exact same ▸ taken.tail left
  · have same : state.begin job rest = state.startNext limits.timeout job rest := by
      simp [PoolState.startNext, PoolState.begin, atOnce]
    exact same ▸ taken

/-- The pool that is run takes the steps of a schedule. -/
theorem Orderly.steps_of_step? {limits : PoolLimits} {jobs : List (Job α)}
    {state next : PoolState α} (orderly : Orderly limits jobs state)
    (advanced : state.step? limits = some next) : Relation.TransGen (Step limits) state next := by
  rw [step?] at advanced
  split at advanced
  · next job rest waiting free =>
    obtain rfl := Option.some.inj advanced
    exact orderly.startNext waiting (of_decide_eq_true free)
  · next notStarting =>
    obtain ⟨started, found, rfl⟩ := Option.map_eq_some_iff.mp advanced
    obtain ⟨⟨before, after, held, left⟩, first⟩ := nextToFinish?_first _ _ _ found
    have busy : state.waiting ≠ [] → limits.slots ≤ state.running.length := by
      intro waits
      obtain ⟨job, rest, waiting⟩ := List.exists_cons_of_ne_nil waits
      by_contra free
      exact notStarting job rest waiting (decide_eq_true (not_le.mp free))
    have same : state.release limits.timeout started (before ++ after) =
        state.finishNext limits.timeout started := by
      rw [finishNext, left, PoolState.release]
    exact same ▸ .single (.finish started before after held first fun _ => busy)

/-- What is still to be done: a waiting job has to start and to end, a running one to end. -/
def remaining (state : PoolState α) : Nat :=
  2 * state.waiting.length + state.running.length

/-- Every step leaves less to be done. -/
theorem Step.remaining_lt {limits : PoolLimits} {state next : PoolState α}
    (taken : Step limits state next) : next.remaining < state.remaining := by
  cases taken with
  | start job rest waiting free =>
    simp only [remaining, PoolState.begin, waiting, List.length_cons, List.length_append,
      List.length_nil]
    omega
  | finish started before after held first busy =>
    simp only [remaining, PoolState.release, held, List.length_append, List.length_cons]
    omega

/-- Several steps leave less to be done. -/
theorem remaining_lt_of_steps {limits : PoolLimits} {state next : PoolState α}
    (taken : Relation.TransGen (Step limits) state next) : next.remaining < state.remaining := by
  induction taken with
  | single step => exact step.remaining_lt
  | tail _ step inductionHypothesis => exact step.remaining_lt.trans inductionHypothesis

/-- No schedule goes on for ever. -/
theorem step_wellFounded (limits : PoolLimits) :
    WellFounded fun next state : PoolState α => Step limits state next :=
  Subrelation.wf (fun taken => taken.remaining_lt) (measure remaining).wf

/-- The pool has come to an end: there is nothing that it may do. -/
def Complete (limits : PoolLimits) (state : PoolState α) : Prop :=
  ∀ next, ¬ Step limits state next

/-- A pool can always start a job or end one, as long as it has any. -/
theorem complete_iff (limits : PoolLimits) (state : PoolState α) :
    Complete limits state ↔ state.waiting = [] ∧ state.running = [] := by
  constructor
  · intro complete
    have full : state.waiting ≠ [] → limits.slots ≤ state.running.length := by
      intro waits
      obtain ⟨job, rest, waiting⟩ := List.exists_cons_of_ne_nil waits
      by_contra free
      exact complete _ (.start job rest waiting (not_le.mp free))
    have idle : state.running = [] := by
      by_contra runs
      have some := mt (nextToFinish?_eq_none_iff limits.timeout state.running).mp runs
      obtain ⟨started, found⟩ := Option.ne_none_iff_exists'.mp some
      obtain ⟨⟨before, after, held, _⟩, first⟩ := nextToFinish?_first _ _ _ found
      exact complete _ (.finish started before after held first fun _ => full)
    refine ⟨?_, idle⟩
    by_contra waits
    have crowded := full waits
    rw [idle] at crowded
    exact absurd (slots_pos limits) (not_lt.mpr crowded)
  · rintro ⟨nothingWaits, nothingRuns⟩ next taken
    cases taken with
    | start job rest waiting free => simp [nothingWaits] at waiting
    | finish started before after held first busy => simp [nothingRuns] at held

/-- The pool that is run stops only at an end. -/
theorem complete_of_step?_eq_none (limits : PoolLimits) (state : PoolState α)
    (stopped : state.step? limits = none) : Complete limits state := by
  rw [step?] at stopped
  split at stopped
  · cases stopped
  · next notStarting =>
    have nothingRuns : state.running = [] :=
      (nextToFinish?_eq_none_iff limits.timeout _).mp (Option.map_eq_none_iff.mp stopped)
    refine (complete_iff limits state).mpr ⟨?_, nothingRuns⟩
    by_contra waits
    obtain ⟨job, rest, waiting⟩ := List.exists_cons_of_ne_nil waits
    exact notStarting job rest waiting (by simpa [nothingRuns] using slots_pos limits)

/-- With as much fuel as there is left to be done, a run comes to the end of a schedule. -/
theorem runFor_complete (limits : PoolLimits) (jobs : List (Job α)) (fuel : Nat)
    (state : PoolState α) (reached : Reaches limits jobs state) (enough : state.remaining ≤ fuel) :
    Reaches limits jobs (state.runFor limits fuel) ∧
      Complete limits (state.runFor limits fuel) := by
  induction fuel generalizing state with
  | zero =>
    refine ⟨reached, fun next taken => ?_⟩
    have less : next.remaining < state.remaining := taken.remaining_lt
    omega
  | succ fuel inductionHypothesis =>
    rw [runFor]
    cases advanced : state.step? limits with
    | none => exact ⟨reached, complete_of_step?_eq_none limits state advanced⟩
    | some next =>
      have taken := reached.orderly.steps_of_step? advanced
      refine inductionHypothesis next (reached.trans taken.to_reflTransGen) ?_
      have less := remaining_lt_of_steps taken
      omega

end PoolState

/-- Running a pool comes to the end of one of its schedules. -/
theorem runPool_complete {α : Type} (limits : PoolLimits) (jobs : List (Job α)) :
    PoolState.Reaches limits jobs (runPool limits jobs) ∧
      PoolState.Complete limits (runPool limits jobs) :=
  PoolState.runFor_complete limits jobs (2 * jobs.length) (.initial jobs)
    Relation.ReflTransGen.refl (Nat.le_refl _)

end ReleaseFinder
