import ReleaseFinder.Proofs.DictionaryPairs
import ReleaseFinder.Report

/-!
# What a report says

A report over outcomes counts each of them once, as a success, a failure or a job out of time. What
goes wrong under a key is the last thing that went wrong there; when the keys differ, the messages
are those of the outcomes, one for each that went wrong.
-/

namespace ReleaseFinder

variable {α : Type}

/-- An outcome's key with what is wrong with it. -/
def complaint? (outcome : String × Outcome α) : Option (String × String) :=
  outcome.2.error?.map fun message => (outcome.1, message)

namespace Report

/-- A report keeps its balance: every outcome is counted in total and in one of the three ways. -/
def Balanced (report : Report) : Prop :=
  report.total = report.succeeded + report.failed + report.timedOut

/-- One more outcome is looked at after the ones before it. -/
theorem ofOutcomes_concat (outcomes : List (String × Outcome α)) (outcome : String × Outcome α) :
    ofOutcomes (outcomes ++ [outcome]) = (ofOutcomes outcomes).record outcome.1 outcome.2 := by
  simp [ofOutcomes]

/-- Recording an outcome makes the total one larger. -/
theorem record_total (report : Report) (key : String) (outcome : Outcome α) :
    (report.record key outcome).total = report.total + 1 := by
  cases outcome <;> rfl

/-- Recording an outcome keeps the balance. -/
theorem record_balanced (report : Report) (key : String) (outcome : Outcome α)
    (balanced : report.Balanced) : (report.record key outcome).Balanced := by
  unfold Balanced at balanced ⊢
  cases outcome <;> simp only [record, recordSuccess, recordFailure, recordTimeout] <;> omega

/-- A success is an outcome with which nothing is wrong. -/
theorem record_succeeded (report : Report) (key : String) (outcome : Outcome α) :
    (report.record key outcome).succeeded =
      report.succeeded + if outcome.error? = none then 1 else 0 := by
  cases outcome <;> rfl

/-- Something wrong is written under its key. -/
theorem record_errors (report : Report) (key : String) (outcome : Outcome α) :
    (report.record key outcome).errors =
      match outcome.error? with
      | none => report.errors
      | some message => report.errors.insert key message := by
  cases outcome <;> rfl

/-- The total is the number of the outcomes. -/
theorem ofOutcomes_total (outcomes : List (String × Outcome α)) :
    (ofOutcomes outcomes).total = outcomes.length := by
  induction outcomes using List.reverseRecOn with
  | nil => rfl
  | append_singleton earlier outcome inductionHypothesis =>
    rw [ofOutcomes_concat, record_total, inductionHypothesis, List.length_append,
      List.length_singleton]

/-- A report over outcomes keeps its balance. -/
theorem ofOutcomes_balanced (outcomes : List (String × Outcome α)) :
    (ofOutcomes outcomes).Balanced := by
  induction outcomes using List.reverseRecOn with
  | nil => rfl
  | append_singleton earlier outcome inductionHypothesis =>
    rw [ofOutcomes_concat]
    exact record_balanced _ _ _ inductionHypothesis

/-- As many have succeeded as there are outcomes without an error. -/
theorem ofOutcomes_succeeded (outcomes : List (String × Outcome α)) :
    (ofOutcomes outcomes).succeeded =
      outcomes.countP fun outcome => decide (outcome.2.error? = none) := by
  induction outcomes using List.reverseRecOn with
  | nil => rfl
  | append_singleton earlier outcome inductionHypothesis =>
    rw [ofOutcomes_concat, record_succeeded, inductionHypothesis, List.countP_append,
      List.countP_singleton]
    simp only [decide_eq_true_eq]

/-- The messages are a dictionary of what is wrong with the outcomes. -/
theorem ofOutcomes_errors (outcomes : List (String × Outcome α)) :
    (ofOutcomes outcomes).errors = .ofList (outcomes.filterMap complaint?) := by
  induction outcomes using List.reverseRecOn with
  | nil => rfl
  | append_singleton earlier last inductionHypothesis =>
    rw [ofOutcomes_concat, record_errors, List.filterMap_append, inductionHypothesis]
    cases wrong : last.2.error? with
    | none => simp [complaint?, wrong]
    | some message => simp [complaint?, wrong, Dictionary.ofList_concat]

/-- Under keys that differ, nothing goes wrong twice. -/
theorem nodup_complaints {outcomes : List (String × Outcome α)}
    (distinct : (outcomes.map Prod.fst).Nodup) :
    ((outcomes.filterMap complaint?).map Prod.fst).Nodup := by
  refine List.pairwise_map.mpr
    (List.pairwise_filterMap.mpr ((List.pairwise_map.mp distinct).imp ?_))
  intro first second apart complaint found other otherFound same
  obtain ⟨_, _, rfl⟩ := Option.map_eq_some_iff.mp found
  obtain ⟨_, _, rfl⟩ := Option.map_eq_some_iff.mp otherFound
  exact apart same

/-- What stands under a key is the message of its outcome. -/
theorem ofOutcomes_lookup?_iff (outcomes : List (String × Outcome α))
    (distinct : (outcomes.map Prod.fst).Nodup) (key message : String) :
    (ofOutcomes outcomes).errors.lookup? key = some message ↔
      ∃ outcome, (key, outcome) ∈ outcomes ∧ outcome.error? = some message := by
  rw [ofOutcomes_errors, Dictionary.lookup?_ofList_iff_mem (.of_nodup (nodup_complaints distinct))]
  simp [complaint?]

/-- The messages of a report are what is wrong with its outcomes, each once. -/
theorem ofOutcomes_entries_perm (outcomes : List (String × Outcome α))
    (distinct : (outcomes.map Prod.fst).Nodup) :
    (ofOutcomes outcomes).errors.entries.Perm (outcomes.filterMap complaint?) := by
  rw [ofOutcomes_errors]
  exact Dictionary.entries_ofList_perm (nodup_complaints distinct)

/-- There are as many messages as outcomes that went wrong. -/
theorem ofOutcomes_errors_length (outcomes : List (String × Outcome α))
    (distinct : (outcomes.map Prod.fst).Nodup) :
    (ofOutcomes outcomes).errors.entries.length =
      (ofOutcomes outcomes).failed + (ofOutcomes outcomes).timedOut := by
  have balanced := ofOutcomes_balanced outcomes
  have parts := List.length_eq_countP_add_countP
    (fun outcome : String × Outcome α => decide (outcome.2.error? = none)) (l := outcomes)
  have complaints : (outcomes.filterMap complaint?).length =
      outcomes.countP fun outcome => decide ¬ (decide (outcome.2.error? = none)) = true := by
    rw [List.length_filterMap_eq_countP]
    refine List.countP_congr ?_
    intro outcome _
    cases wrong : outcome.2.error? <;> simp [complaint?, wrong]
  rw [Balanced, ofOutcomes_total, ofOutcomes_succeeded] at balanced
  rw [(ofOutcomes_entries_perm outcomes distinct).length_eq, complaints]
  omega

end Report

end ReleaseFinder
