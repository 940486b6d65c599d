import ReleaseFinder.Proofs.PoolOccupancy

/-!
# Times of a pool

No job can hold up the others for longer than the time limit. The ends of jobs come in any order and
free slots at irregular times, so jobs do not start in rounds. But when a job starts late, the slots
were full at the moment before, and no more than all but one of them were held by the jobs right
before it. So one was held by a job that had started at least as many places earlier as there are
slots (`Occupied.freed`), and that one ended within the time limit of its own start. The bounds
follow by induction on the place of a job.
-/

namespace ReleaseFinder

variable {α : Type}

/-- A job ends within the time limit of its own start. -/
theorem Started.finish_le (timeout : Nat) (started : Started α) :
    started.finish timeout ≤ started.start + timeout :=
  Nat.add_le_add_left (Nat.min_le_right _ timeout) started.start

namespace PoolState

variable {limits : PoolLimits} {jobs : List (Job α)} {state : PoolState α}

/-- Before the job at a place starts, neither it nor a later one holds a slot. -/
theorem Occupied.unheld (occupied : Occupied limits state) {place moment : Nat}
    (begun : place < state.starts.length) (before : moment < state.starts[place].start) :
    (state.starts.drop place).countP (Started.holdsAt limits.timeout moment) = 0 := by
  refine List.countP_eq_zero.mpr fun other later => ?_
  obtain ⟨offset, bound, rfl⟩ := List.mem_drop_iff_getElem.mp later
  have inTurn : state.starts[place].start ≤ state.starts[place + offset].start := by
    rcases Nat.eq_zero_or_pos offset with rfl | apart
    · exact le_rfl
    · exact List.pairwise_iff_getElem.mp occupied.inTurn _ _ _ _ (Nat.lt_add_of_pos_right apart)
  simp only [Started.holdsAt, decide_eq_true_eq]
  omega

/-- Nor do this job and those right before it, all in all no more than there are slots, hold all of
them. -/
theorem Occupied.held_lt (occupied : Occupied limits state) {place moment : Nat}
    (begun : place < state.starts.length) (before : moment < state.starts[place].start) :
    (state.starts.drop (place + 1 - limits.slots)).countP (Started.holdsAt limits.timeout moment) <
      limits.slots := by
  have slots := slots_pos limits
  let first := place + 1 - limits.slots
  have joined : first + (place - first) = place := by omega
  have split : state.starts.drop first =
      (state.starts.drop first).take (place - first) ++ state.starts.drop place := by
    conv_lhs => rw [← List.take_append_drop (place - first) (state.starts.drop first)]
    rw [List.drop_drop, joined]
  have short := List.countP_le_length (p := Started.holdsAt limits.timeout moment)
    (l := (state.starts.drop first).take (place - first))
  rw [List.length_take] at short
  rw [split, List.countP_append, occupied.unheld begun before]
  omega

/-- A job that did not start at once has waited for one that started as many places earlier as there
are slots, or more. -/
theorem Occupied.freed (occupied : Occupied limits state) {place : Nat}
    (begun : place < state.starts.length) (late : 0 < state.starts[place].start) :
    ∃ (earlier : Nat) (known : earlier < state.starts.length), earlier + limits.slots ≤ place ∧
      state.starts[place].start ≤ state.starts[earlier].start + limits.timeout := by
  -- The slots are full at the moment before the start, and not all of them are held by the jobs
  -- right before.
  let moment := state.starts[place].start - 1
  have before : moment < state.starts[place].start := Nat.sub_one_lt_of_lt late
  have member : state.starts[place] ∈ state.starts := List.getElem_mem begun
  have full : state.starts.countP (Started.holdsAt limits.timeout moment) = limits.slots :=
    occupied.full moment (before.trans_le (occupied.begun _ member)) (.inr ⟨_, member, before⟩)
  have held : 0 < (state.starts.take (place + 1 - limits.slots)).countP
      (Started.holdsAt limits.timeout moment) := by
    have fewer := occupied.held_lt begun before
    rw [← List.take_append_drop (place + 1 - limits.slots) state.starts, List.countP_append] at full
    omega
  -- So an earlier job holds one, and gives it back within the time limit.
  obtain ⟨holder, among, holds⟩ := List.countP_pos_iff.mp held
  obtain ⟨earlier, bound, rfl⟩ := List.mem_take_iff_getElem.mp among
  have known : earlier < state.starts.length := (lt_min_iff.mp bound).2
  have limited := state.starts[earlier].finish_le limits.timeout
  simp only [Started.holdsAt, decide_eq_true_eq] at holds
  exact ⟨earlier, known, by omega, by omega⟩

/-- The job at a place starts after as many time limits, at most, as the slots go into the place. -/
theorem Occupied.start_le (occupied : Occupied limits state) {place : Nat}
    (begun : place < state.starts.length) :
    state.starts[place].start ≤ place / limits.slots * limits.timeout := by
  induction place using Nat.strong_induction_on with
  | h place inductionHypothesis =>
    rcases Nat.eq_zero_or_pos state.starts[place].start with atOnce | late
    · rw [atOnce]
      exact Nat.zero_le _
    · obtain ⟨earlier, known, apart, within⟩ := occupied.freed begun late
      have some := slots_pos limits
      have before := inductionHypothesis earlier (by omega) known
      calc state.starts[place].start
          ≤ earlier / limits.slots * limits.timeout + limits.timeout := by omega
        _ = (earlier / limits.slots + 1) * limits.timeout := (Nat.succ_mul _ _).symm
        _ = (earlier + limits.slots) / limits.slots * limits.timeout := by
            rw [Nat.add_div_right earlier some]
        _ ≤ place / limits.slots * limits.timeout :=
            Nat.mul_le_mul_right _ (Nat.div_le_div_right apart)

/-- The clock stands at the start or at the end of a job. -/
theorem Reaches.now_eq (reached : Reaches limits jobs state) :
    state.now = 0 ∨ ∃ started ∈ state.finished, state.now = started.finish limits.timeout := by
  induction reached with
  | refl => exact .inl rfl
  | tail _ taken inductionHypothesis =>
    cases taken with
    | start job rest next free => exact inductionHypothesis
    | finish started before after held first busy =>
      exact .inr ⟨started, by simp [PoolState.release], rfl⟩

/-- What starts is the job at its place. -/
theorem Orderly.job_eq (orderly : Orderly limits jobs state) {place : Nat} {started : Started α}
    (begun : state.starts[place]? = some started) : jobs[place]? = some started.job := by
  rw [← orderly.inOrder, List.getElem?_append_left, List.getElem?_map, begun]
  · rfl
  · rw [List.length_map]
    exact (List.getElem?_eq_some_iff.mp begun).1

end PoolState

open PoolState

/-- In every schedule of a pool, and so in the one that is run, the job at a place, counted from
zero, has started after as many time limits as the slots go into that place, rounded down; it ends
within the time limit of its start; and every job has ended after as many time limits as the slots
go into the number of jobs, rounded up. It does not matter how long the jobs would take. -/
theorem times_are_bounded (limits : PoolLimits) (jobs : List (Job α)) :
    (∀ state, Reaches limits jobs state → ∀ (place : Nat) (started : Started α),
      state.starts[place]? = some started →
        jobs[place]? = some started.job ∧
          started.start ≤ place / max limits.maxConcurrency 1 * limits.timeout ∧
          started.finish limits.timeout ≤ started.start + limits.timeout ∧
          started.finish limits.timeout ≤
            jobs.length ⌈/⌉ max limits.maxConcurrency 1 * limits.timeout) ∧
      Reaches limits jobs (runPool limits jobs) ∧
      (runPool limits jobs).starts.map Started.job = jobs ∧
      (runPool limits jobs).finished.Perm (runPool limits jobs).starts ∧
      (runPool limits jobs).now ≤ jobs.length ⌈/⌉ max limits.maxConcurrency 1 * limits.timeout := by
  have bounds (state : PoolState α) (reached : Reaches limits jobs state) (place : Nat)
      (started : Started α) (begun : state.starts[place]? = some started) :
      jobs[place]? = some started.job ∧ started.start ≤ place / limits.slots * limits.timeout ∧
        started.finish limits.timeout ≤ started.start + limits.timeout ∧
        started.finish limits.timeout ≤ jobs.length ⌈/⌉ limits.slots * limits.timeout := by
    obtain ⟨known, rfl⟩ := List.getElem?_eq_some_iff.mp begun
    have same := reached.orderly.job_eq begun
    have inJobs : place < jobs.length := (List.getElem?_eq_some_iff.mp same).1
    have start := reached.occupied.start_le known
    have finish := state.starts[place].finish_le limits.timeout
    refine ⟨same, start, finish, ?_⟩
    have some := slots_pos limits
    calc state.starts[place].finish limits.timeout
        ≤ (place / limits.slots + 1) * limits.timeout := by
          rw [Nat.succ_mul]
          omega
      _ ≤ jobs.length ⌈/⌉ limits.slots * limits.timeout := by
          refine Nat.mul_le_mul_right _ ?_
          rw [Nat.ceilDiv_eq_add_pred_div, ← Nat.add_div_right place some]
          exact Nat.div_le_div_right (by omega)
  obtain ⟨reached, complete⟩ := runPool_complete limits jobs
  obtain ⟨nothingWaits, nothingRuns⟩ := (complete_iff limits _).mp complete
  have inOrder := reached.orderly.inOrder
  have placed := reached.orderly.placed
  rw [nothingWaits, List.append_nil] at inOrder
  rw [nothingRuns, List.append_nil] at placed
  refine ⟨bounds, reached, inOrder, placed.symm, ?_⟩
  rcases reached.now_eq with begins | ⟨started, ended, stands⟩
  · rw [begins]
    exact Nat.zero_le _
  · obtain ⟨place, begun⟩ := List.getElem?_of_mem (placed.mem_iff.mpr ended)
    rw [stands]
    exact (bounds _ reached place started begun).2.2.2

/-- Three jobs that never end share two slots: the third starts when the first two are stopped, and
is stopped itself as late as the bound allows. -/
theorem endless_jobs_take_two_turns :
    let limits : PoolLimits := ⟨2, 5⟩
    let jobs : List (Job Nat) :=
      [⟨"first", none, .ok 1⟩, ⟨"second", none, .ok 2⟩, ⟨"third", none, .ok 3⟩]
    let last : Started Nat := ⟨⟨"third", none, .ok 3⟩, 5⟩
    (runPool limits jobs).starts[2]? = some last ∧ last.start = 5 ∧ last.start ≤ 2 / 2 * 5 ∧
      last.finish 5 = 10 ∧ last.finish 5 ≤ 3 ⌈/⌉ 2 * 5 := by
  intro limits jobs last
  have third : (runPool limits jobs).starts[2]? = some last := by
    rfl
  obtain ⟨bounds, reached, -⟩ := times_are_bounded limits jobs
  obtain ⟨-, start, -, finish⟩ := bounds _ reached 2 last third
  exact ⟨third, rfl, start, rfl, finish⟩

end ReleaseFinder
