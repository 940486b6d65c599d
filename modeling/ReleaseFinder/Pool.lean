import ReleaseFinder.Report

/-!
# Worker pool

A pool that runs jobs on a clock, at most so many at once. Jobs start in order as soon as a slot is
free, and each may run for a limited time from its own start. `PoolState.step?`
gives the next state of a pool: a start when one is possible, else the end of the job that ends
first.
-/

namespace ReleaseFinder

/-- A job: what it works on, how long it takes, and what it ends with. -/
structure Job (α : Type) where
  key : String
  /-- The time that the job takes; none for a job that never ends. -/
  delay : Option Nat
  result : Except String α

namespace Job

variable {α : Type}

/-- The job ends by itself within the time limit. -/
def endsInTime (job : Job α) (timeout : Nat) : Bool :=
  job.delay.any fun delay => decide (delay ≤ timeout)

/-- How long the job holds its slot. -/
def duration (job : Job α) (timeout : Nat) : Nat :=
  min (job.delay.getD timeout) timeout

/-- What becomes of the job. It depends on nothing but the job and the time limit. -/
def outcome (job : Job α) (timeout : Nat) : Outcome α :=
  if job.endsInTime timeout then
    match job.result with
    | .ok value => .completed value
    | .error message => .failed message
  else .timedOut

end Job

/-- A pool's limits. -/
structure PoolLimits where
  maxConcurrency : Nat
  timeout : Nat
deriving Repr, DecidableEq

/-- The number of slots; a pool without slots has one. -/
def PoolLimits.slots (limits : PoolLimits) : Nat :=
  max limits.maxConcurrency 1

/-- A job with the time of its start. -/
structure Started (α : Type) where
  job : Job α
  start : Nat

/-- The time at which a started job ends. -/
def Started.finish {α : Type} (started : Started α) (timeout : Nat) : Nat :=
  started.start + started.job.duration timeout

/-- A pool at a moment. -/
structure PoolState (α : Type) where
  now : Nat
  /-- Jobs that have not started, in order. -/
  waiting : List (Job α)
  /-- Jobs that hold a slot, in the order of their starts. -/
  running : List (Started α)
  /-- Jobs that have ended, in the order of their ends. -/
  finished : List (Started α)
  /-- The starts so far, in order. -/
  starts : List (Started α)
  /-- The most jobs that have held slots at once. -/
  peak : Nat

namespace PoolState

variable {α : Type}

/-- A pool before anything has started. -/
def initial (jobs : List (Job α)) : PoolState α :=
  { now := 0, waiting := jobs, running := [], finished := [], starts := [], peak := 0 }

/-- The running job that ends first; of several, the one that started first. -/
def nextToFinish? (timeout : Nat) : List (Started α) → Option (Started α)
  | [] => none
  | started :: rest =>
    match nextToFinish? timeout rest with
    | none => some started
    | some other =>
      if other.finish timeout < started.finish timeout then some other else some started

/-- The running jobs without the one that ends first. -/
def withoutNext (timeout : Nat) : List (Started α) → List (Started α)
  | [] => []
  | started :: rest =>
    match nextToFinish? timeout rest with
    | none => []
    | some other =>
      if other.finish timeout < started.finish timeout then
        started :: withoutNext timeout rest
      else rest

/-- The pool after the next job has started. A job that takes no time ends at once. -/
def startNext (timeout : Nat) (state : PoolState α) (job : Job α) (rest : List (Job α)) :
    PoolState α :=
  let started : Started α := ⟨job, state.now⟩
  let atOnce := job.duration timeout = 0
  { state with
    waiting := rest
    running := if atOnce then state.running else state.running ++ [started]
    finished := if atOnce then state.finished ++ [started] else state.finished
    starts := state.starts ++ [started]
    peak := max state.peak (state.running.length + 1) }

/-- The pool after the running job that ends first has ended. -/
def finishNext (timeout : Nat) (state : PoolState α) (started : Started α) : PoolState α :=
  { state with
    now := started.finish timeout
    running := withoutNext timeout state.running
    finished := state.finished ++ [started] }

/-- The next state, unless every job has ended. -/
def step? (limits : PoolLimits) (state : PoolState α) : Option (PoolState α) :=
  match state.waiting, decide (state.running.length < limits.slots) with
  | job :: rest, true => some (state.startNext limits.timeout job rest)
  | _, _ =>
    (nextToFinish? limits.timeout state.running).map (state.finishNext limits.timeout)

/-- The state after at most so many steps. -/
def runFor (limits : PoolLimits) : Nat → PoolState α → PoolState α
  | 0, state => state
  | fuel + 1, state =>
    match state.step? limits with
    | none => state
    | some next => runFor limits fuel next

end PoolState

/-- The pool after all jobs have ended: each of them starts once and ends once. -/
def runPool {α : Type} (limits : PoolLimits) (jobs : List (Job α)) : PoolState α :=
  (PoolState.initial jobs).runFor limits (2 * jobs.length)

/-- The jobs' keys with their outcomes, in the order in which they ended. -/
def poolOutcomes {α : Type} (limits : PoolLimits) (jobs : List (Job α)) :
    List (String × Outcome α) :=
  (runPool limits jobs).finished.map fun started =>
    (started.job.key, started.job.outcome limits.timeout)

end ReleaseFinder
