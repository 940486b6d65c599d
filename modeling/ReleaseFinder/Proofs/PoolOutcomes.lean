import ReleaseFinder.Proofs.PoolSchedules

/-!
# Outcomes of a pool

However a pool schedules its jobs, every job ends once, and what becomes of it is its own affair: it
ends as it would alone if it takes no longer than the time limit, counted from its own start, and is
out of time otherwise. The number of slots, the order of the jobs and the other jobs decide only in
which order the outcomes come. That order is the order of the ends, and with one slot it is the
order of the jobs.
-/

namespace ReleaseFinder

variable {α : Type}

/-- When a started job ends, and as what. -/
inductive Started.Ends (timeout : Nat) (started : Started α) : Nat → Outcome α → Prop where
  | completed (delay : Nat) (value : α) (takes : started.job.delay = some delay)
      (inTime : started.start + delay ≤ started.start + timeout)
      (result : started.job.result = .ok value) :
      Ends timeout started (started.start + delay) (.completed value)
  | failed (delay : Nat) (message : String) (takes : started.job.delay = some delay)
      (inTime : started.start + delay ≤ started.start + timeout)
      (result : started.job.result = .error message) :
      Ends timeout started (started.start + delay) (.failed message)
  | timedOut (late : ∀ delay, started.job.delay = some delay →
        started.start + timeout < started.start + delay) :
      Ends timeout started (started.start + timeout) .timedOut

/-- A job that takes no longer than the time limit ends by itself, with its own result. -/
theorem Job.outcome_of_inTime (job : Job α) (timeout delay : Nat) (takes : job.delay = some delay)
    (inTime : delay ≤ timeout) :
    job.duration timeout = delay ∧
      (∀ value, job.result = .ok value → job.outcome timeout = .completed value) ∧
      ∀ message, job.result = .error message → job.outcome timeout = .failed message := by
  refine ⟨by simp [duration, takes, inTime], ?_, ?_⟩
  · intro value result
    simp [outcome, endsInTime, takes, inTime, result]
  · intro message result
    simp [outcome, endsInTime, takes, inTime, result]

/-- Any other job is stopped at the time limit. -/
theorem Job.outcome_of_late (job : Job α) (timeout : Nat)
    (late : ∀ delay, job.delay = some delay → timeout < delay) :
    job.duration timeout = timeout ∧ job.outcome timeout = .timedOut := by
  cases takes : job.delay with
  | none => simp [duration, outcome, endsInTime, takes]
  | some delay =>
    have beyond := late delay takes
    simp [duration, outcome, endsInTime, takes, Nat.le_of_lt beyond, Nat.not_le_of_lt beyond]

/-- A job ends in exactly one way and at one time, the computed ones. -/
theorem Started.ends_iff (timeout : Nat) (started : Started α) (moment : Nat)
    (outcome : Outcome α) :
    started.Ends timeout moment outcome ↔
      moment = started.finish timeout ∧ outcome = started.job.outcome timeout := by
  constructor
  · intro ends
    cases ends with
    | completed delay value takes inTime result =>
      obtain ⟨duration, own, _⟩ := started.job.outcome_of_inTime timeout delay takes (by omega)
      exact ⟨by rw [finish, duration], (own value result).symm⟩
    | failed delay message takes inTime result =>
      obtain ⟨duration, _, own⟩ := started.job.outcome_of_inTime timeout delay takes (by omega)
      exact ⟨by rw [finish, duration], (own message result).symm⟩
    | timedOut late =>
      obtain ⟨duration, own⟩ := started.job.outcome_of_late timeout fun delay takes => by
        have beyond := late delay takes
        omega
      exact ⟨by rw [finish, duration], own.symm⟩
  · rintro ⟨rfl, rfl⟩
    by_cases within : ∃ delay, started.job.delay = some delay ∧ delay ≤ timeout
    · obtain ⟨delay, takes, inTime⟩ := within
      obtain ⟨duration, completed, failed⟩ :=
        started.job.outcome_of_inTime timeout delay takes inTime
      rw [finish, duration]
      cases result : started.job.result with
      | ok value =>
        rw [completed value result]
        exact .completed delay value takes (by omega) result
      | error message =>
        rw [failed message result]
        exact .failed delay message takes (by omega) result
    · have late (delay : Nat) (takes : started.job.delay = some delay) : timeout < delay :=
        not_le.mp fun inTime => within ⟨delay, takes, inTime⟩
      obtain ⟨duration, own⟩ := started.job.outcome_of_late timeout late
      rw [finish, duration, own]
      exact .timedOut fun delay takes => Nat.add_lt_add_left (late delay takes) _

/-- A job's key with what becomes of it on its own. -/
def Job.ownOutcome (timeout : Nat) (job : Job α) : String × Outcome α :=
  (job.key, job.outcome timeout)

namespace PoolState

/-- The keys of the ended jobs with their outcomes. -/
def outcomes (timeout : Nat) (state : PoolState α) : List (String × Outcome α) :=
  state.finished.map fun started => started.job.ownOutcome timeout

/-- With one slot, a job ends before the next one starts. -/
theorem Reaches.starts_eq {limits : PoolLimits} {jobs : List (Job α)} {state : PoolState α}
    (reached : Reaches limits jobs state) (single : limits.slots = 1) :
    state.starts = state.finished ++ state.running := by
  induction reached with
  | refl => rfl
  | tail reached taken inductionHypothesis =>
    cases taken with
    | start job rest waiting free =>
      simp [PoolState.begin, inductionHypothesis]
    | finish started before after held first busy =>
      have slotted := (show Reaches limits jobs _ from reached).orderly.slotted
      rw [single, held, List.length_append, List.length_cons] at slotted
      obtain rfl : before = [] := List.eq_nil_of_length_eq_zero (by omega)
      obtain rfl : after = [] := List.eq_nil_of_length_eq_zero (by omega)
      simp [PoolState.release, inductionHypothesis, held]

/-- At the end of a schedule, every job has ended once. -/
theorem Reaches.finished_perm {limits : PoolLimits} {jobs : List (Job α)} {final : PoolState α}
    (reached : Reaches limits jobs final) (complete : Complete limits final) :
    (final.finished.map Started.job).Perm jobs := by
  obtain ⟨nothingWaits, nothingRuns⟩ := (complete_iff limits final).mp complete
  have placed := reached.orderly.placed.symm.map Started.job
  have inOrder := reached.orderly.inOrder
  rw [nothingRuns, List.append_nil] at placed
  rw [nothingWaits, List.append_nil] at inOrder
  rwa [inOrder] at placed

/-- With one slot, they have ended in their order. -/
theorem Reaches.finished_eq {limits : PoolLimits} {jobs : List (Job α)} {final : PoolState α}
    (reached : Reaches limits jobs final) (complete : Complete limits final)
    (single : limits.slots = 1) : final.finished.map Started.job = jobs := by
  obtain ⟨nothingWaits, nothingRuns⟩ := (complete_iff limits final).mp complete
  have inOrder := reached.orderly.inOrder
  rw [reached.starts_eq single, nothingRuns, nothingWaits, List.append_nil,
    List.append_nil] at inOrder
  exact inOrder

/-- The outcomes are those of the ended jobs. -/
theorem outcomes_eq (timeout : Nat) (state : PoolState α) :
    state.outcomes timeout = (state.finished.map Started.job).map (Job.ownOutcome timeout) := by
  rw [List.map_map]
  rfl

end PoolState

open PoolState

/-- A pool gives every job's own outcome, in some order. -/
theorem poolOutcomes_perm (limits : PoolLimits) (jobs : List (Job α)) :
    (poolOutcomes limits jobs).Perm (jobs.map (Job.ownOutcome limits.timeout)) := by
  obtain ⟨reached, complete⟩ := runPool_complete limits jobs
  have ended := (reached.finished_perm complete).map (Job.ownOutcome limits.timeout)
  rwa [← outcomes_eq] at ended

/-- However jobs are scheduled, each of them ends once, with its own key and as it ends on its own
within the time limit, counted from its start; the ends come in the order of time, and with at most
one job at once in the order of the jobs. The pool that is run takes one of these schedules to its
end, and there is none without an end. So neither another number of slots nor another order of the
jobs changes the outcomes but for their order, and jobs have the same outcomes among others as by
themselves. -/
theorem every_schedule_keeps_outcomes (limits : PoolLimits) (jobs : List (Job α)) :
    (∀ final, Reaches limits jobs final → Complete limits final →
      (final.finished.map Started.job).Perm jobs ∧
        (final.outcomes limits.timeout).Perm
          (jobs.map fun job => (job.key, job.outcome limits.timeout)) ∧
        (∀ started ∈ final.finished, ∀ moment outcome,
          started.Ends limits.timeout moment outcome ↔
            moment = started.finish limits.timeout ∧
              outcome = started.job.outcome limits.timeout) ∧
        (final.finished.Pairwise fun first second =>
          first.finish limits.timeout ≤ second.finish limits.timeout) ∧
        (limits.maxConcurrency ≤ 1 → final.outcomes limits.timeout =
          jobs.map fun job => (job.key, job.outcome limits.timeout))) ∧
      (Reaches limits jobs (runPool limits jobs) ∧ Complete limits (runPool limits jobs) ∧
        poolOutcomes limits jobs = (runPool limits jobs).outcomes limits.timeout) ∧
      (WellFounded fun next state : PoolState α => Step limits state next) ∧
      (∀ other : PoolLimits, other.timeout = limits.timeout → ∀ others : List (Job α),
        (others.Perm jobs → (poolOutcomes other others).Perm (poolOutcomes limits jobs)) ∧
          (poolOutcomes other (jobs ++ others)).Perm
            (poolOutcomes limits jobs ++ poolOutcomes other others)) := by
  refine ⟨?schedules, ⟨(runPool_complete limits jobs).1, (runPool_complete limits jobs).2, rfl⟩,
    step_wellFounded limits, ?relations⟩
  case schedules =>
    intro final reached complete
    have ended := reached.finished_perm complete
    refine ⟨ended, ?_, fun started _ => started.ends_iff limits.timeout, reached.orderly.ends, ?_⟩
    · rw [outcomes_eq]
      exact ended.map _
    · intro atMostOne
      have single : limits.slots = 1 := Nat.max_eq_right atMostOne
      rw [outcomes_eq, reached.finished_eq complete single]
      rfl
  case relations =>
    intro other sameTimeout others
    have own := poolOutcomes_perm limits jobs
    have otherwise (more : List (Job α)) : (poolOutcomes other more).Perm
        (more.map (Job.ownOutcome limits.timeout)) := sameTimeout ▸ poolOutcomes_perm other more
    refine ⟨?_, ?_⟩
    · intro reordered
      exact (otherwise others).trans ((reordered.map _).trans own.symm)
    · have together := otherwise (jobs ++ others)
      rw [List.map_append] at together
      exact together.trans (own.append (otherwise others)).symm

end ReleaseFinder
