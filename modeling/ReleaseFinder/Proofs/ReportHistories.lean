import ReleaseFinder.Proofs.Reports

/-!
# Histories of reports

A report records successes, failures and jobs out of time, in any order and under any keys. Its
counts are those of what has been recorded, whatever the keys are; its messages are a dictionary, so
a key that goes wrong again loses its message to the later one. That is why there may be fewer
messages than jobs that went wrong.

`Tells` says of a report what it has kept of a history. One more event keeps it true
(`Tells.record`), so it holds after any history (`tells_after`), and everything else is read off it.
-/

namespace ReleaseFinder.Report

open Dictionary (Agree)

variable {α κ : Type}

/-- What a report may record. -/
inductive Event where
  | success
  | failure (key message : String)
  | timeout (key : String)
deriving DecidableEq, Repr

namespace Event

/-- The key that went wrong, if one did, with what went wrong. -/
def complaint? : Event → Option (String × String)
  | .success => none
  | .failure key message => some (key, message)
  | .timeout key => some (key, timedOutMessage)

/-- The event is a failure. -/
def isFailure : Event → Bool
  | .failure .. => true
  | _ => false

/-- The event is a job out of time. -/
def isTimeout : Event → Bool
  | .timeout _ => true
  | _ => false

/-- What is recorded of an outcome. -/
def ofOutcome (outcome : String × Outcome α) : Event :=
  match outcome.2 with
  | .completed _ => .success
  | .failed message => .failure outcome.1 message
  | .timedOut => .timeout outcome.1

end Event

/-- The report with one more event. -/
def recordEvent (report : Report) : Event → Report
  | .success => report.recordSuccess
  | .failure key message => report.recordFailure key message
  | .timeout key => report.recordTimeout key

/-- The report after a history. -/
def after (events : List Event) : Report :=
  events.foldl recordEvent {}

/-- The complaints of a history, in their order. -/
def complaints (events : List Event) : List (String × String) :=
  events.filterMap Event.complaint?

/-- What a report has kept of a history. -/
structure Tells (events : List Event) (report : Report) : Prop where
  total : report.total = events.length
  succeeded : report.succeeded = events.count .success
  failed : report.failed = events.countP Event.isFailure
  timedOut : report.timedOut = events.countP Event.isTimeout
  errors : report.errors = .ofList (complaints events)

/-- An event that complains writes its message over what was there. -/
theorem recordEvent_errors (report : Report) (event : Event) :
    (report.recordEvent event).errors =
      match event.complaint? with
      | none => report.errors
      | some (key, message) => report.errors.insert key message := by
  cases event <;> rfl

/-- One more event is told along with the others. -/
theorem Tells.record {events : List Event} {report : Report} (tells : Tells events report)
    (event : Event) :
    Tells (events ++ [event]) (report.recordEvent event) where
  total := by
    rw [List.length_append, List.length_singleton, ← tells.total]
    cases event <;> rfl
  succeeded := by
    rw [List.count_append, List.count_singleton, ← tells.succeeded]
    cases event <;> rfl
  failed := by
    rw [List.countP_append, List.countP_singleton, ← tells.failed]
    cases event <;> rfl
  timedOut := by
    rw [List.countP_append, List.countP_singleton, ← tells.timedOut]
    cases event <;> rfl
  errors := by
    rw [recordEvent_errors, complaints, List.filterMap_append, ← complaints, tells.errors]
    cases complains : event.complaint? with
    | none => simp [complains]
    | some complaint => simp [complains, Dictionary.ofList_concat]

/-- A report tells every history. -/
theorem tells_after (events : List Event) : Tells events (after events) := by
  induction events using List.reverseRecOn with
  | nil => exact ⟨rfl, rfl, rfl, rfl, rfl⟩
  | append_singleton earlier event inductionHypothesis =>
    rw [after, List.foldl_append]
    exact inductionHypothesis.record event

/-- Each event is of one kind. -/
theorem length_eq_counts (events : List Event) :
    events.length =
      events.count .success + events.countP Event.isFailure + events.countP Event.isTimeout := by
  induction events with
  | nil => rfl
  | cons event events inductionHypothesis =>
    rw [List.length_cons, List.count_cons, List.countP_cons, List.countP_cons, inductionHypothesis]
    cases event <;> simp [Event.isFailure, Event.isTimeout] <;> omega

/-- There is a complaint for each failure and each job out of time. -/
theorem length_complaints (events : List Event) :
    (complaints events).length = events.countP Event.isFailure + events.countP Event.isTimeout := by
  induction events with
  | nil => rfl
  | cons event events inductionHypothesis =>
    rw [complaints] at inductionHypothesis ⊢
    rw [List.filterMap_cons, List.countP_cons, List.countP_cons]
    cases event <;>
      simp [Event.complaint?, Event.isFailure, Event.isTimeout, inductionHypothesis] <;> omega

/-- The message is the last one that a history has for the key. -/
def LastComplaint (events : List Event) (key message : String) : Prop :=
  ∃ before event later, events = before ++ event :: later ∧ event.complaint? = some (key, message) ∧
    ∀ other ∈ later, ∀ more, other.complaint? ≠ some (key, more)

/-- The last complaint about a key is its last pair among the complaints. -/
theorem lastComplaint_iff (events : List Event) (key message : String) :
    LastComplaint events key message ↔
      ∃ before later, complaints events = before ++ (key, message) :: later ∧
      key ∉ later.map Prod.fst := by
  constructor
  · rintro ⟨before, event, later, rfl, complains, others⟩
    refine ⟨complaints before, complaints later, ?_, ?_⟩
    · simp [complaints, complains]
    · intro again
      obtain ⟨⟨named, more⟩, member, rfl⟩ := List.mem_map.mp again
      obtain ⟨other, isLater, complainsToo⟩ := List.mem_filterMap.mp member
      exact others other isLater more complainsToo
  · rintro ⟨before, later, split, others⟩
    obtain ⟨first, rest, rfl, -, restComplaints⟩ := List.filterMap_eq_append_iff.mp split
    obtain ⟨silent, event, last, rfl, -, complains, rfl⟩ :=
      List.filterMap_eq_cons_iff.mp restComplaints
    refine ⟨first ++ silent, event, last, by simp, complains, ?_⟩
    intro other isLater more complainsToo
    exact others (List.mem_map_of_mem (List.mem_filterMap.mpr ⟨other, isLater, complainsToo⟩))

/-! ## Outcomes in any order -/

/-- Two reports count the same. -/
def SameCounts (report other : Report) : Prop :=
  report.total = other.total ∧ report.succeeded = other.succeeded ∧ report.failed = other.failed ∧
    report.timedOut = other.timedOut

/-- Reports that count the same and have the same messages are one. -/
theorem SameCounts.eq {report other : Report} (counts : SameCounts report other)
    (errors : report.errors = other.errors) : report = other := by
  obtain ⟨total, succeeded, failed, timedOut⟩ := counts
  cases report
  cases other
  simp_all

/-- The order of a history does not change the counts. -/
theorem sameCounts_of_perm {events others : List Event} (moved : others.Perm events) :
    SameCounts (after others) (after events) := by
  obtain ⟨total, succeeded, failed, timedOut, -⟩ := tells_after events
  obtain ⟨otherTotal, otherSucceeded, otherFailed, otherTimedOut, -⟩ := tells_after others
  refine ⟨?_, ?_, ?_, ?_⟩
  · rw [otherTotal, total, moved.length_eq]
  · rw [otherSucceeded, succeeded, moved.count_eq]
  · rw [otherFailed, failed, moved.countP_eq]
  · rw [otherTimedOut, timedOut, moved.countP_eq]

/-- A report over outcomes is the report after their events. -/
theorem ofOutcomes_eq_after (outcomes : List (String × Outcome α)) :
    ofOutcomes outcomes = after (outcomes.map Event.ofOutcome) := by
  rw [ofOutcomes, after, List.foldl_map]
  congr 1
  funext report outcome
  obtain ⟨key, outcome⟩ := outcome
  cases outcome <;> rfl

/-- Outcomes with the texts that show their keys. -/
def shown (display : κ → String) (outcomes : List (κ × Outcome α)) : List (String × Outcome α) :=
  outcomes.map (Prod.map display id)

/-- What is wrong with the outcomes, under the shown keys. -/
def shownComplaints (display : κ → String) (outcomes : List (κ × Outcome α)) :
    List (String × String) :=
  (shown display outcomes).filterMap ReleaseFinder.complaint?

/-- The report over outcomes whose keys are shown as texts. -/
def ofShown (display : κ → String) (outcomes : List (κ × Outcome α)) : Report :=
  ofOutcomes (shown display outcomes)

variable (display : κ → String)

/-- The errors of the report are what is wrong with the outcomes, under the shown keys. -/
theorem ofShown_errors (outcomes : List (κ × Outcome α)) :
    (ofShown display outcomes).errors = .ofList (shownComplaints display outcomes) := by
  rw [ofShown, ofOutcomes_errors, shownComplaints]

/-- The counts do not depend on the order of the outcomes. -/
theorem sameCounts_ofShown {outcomes others : List (κ × Outcome α)} (moved : others.Perm outcomes) :
    SameCounts (ofShown display others) (ofShown display outcomes) := by
  rw [ofShown, ofShown, ofOutcomes_eq_after, ofOutcomes_eq_after]
  exact sameCounts_of_perm ((moved.map _).map _)

/-- Outcomes may come in any order exactly if what is wrong under one key is one thing. -/
theorem ofShown_orderless_iff (outcomes : List (κ × Outcome α)) :
    (∀ others : List (κ × Outcome α), others.Perm outcomes →
        (ofShown display others).errors = (ofShown display outcomes).errors) ↔
      Agree (shownComplaints display outcomes) := by
  constructor
  · intro orderless
    -- Each of two outcomes under one key can be made the last one.
    have found (key message : String) (member : (key, message) ∈ shownComplaints display outcomes) :
        (ofShown display outcomes).errors.lookup? key = some message := by
      rw [shownComplaints, shown, List.filterMap_map] at member
      obtain ⟨outcome, isOutcome, complains⟩ := List.mem_filterMap.mp member
      obtain ⟨before, later, rfl⟩ := List.append_of_mem isOutcome
      have moved : (before ++ later ++ [outcome]).Perm (before ++ outcome :: later) :=
        (List.perm_append_singleton _ _).trans List.perm_middle.symm
      have lastly : shownComplaints display (before ++ later ++ [outcome]) =
          shownComplaints display (before ++ later) ++ [(key, message)] := by
        rw [Function.comp_apply] at complains
        simp [shownComplaints, shown, complains]
      rw [← orderless _ moved, ofShown_errors, lastly, Dictionary.lookup?_ofList_concat]
    intro key message other member otherMember
    exact Option.some.inj ((found key message member).symm.trans (found key other otherMember))
  · intro agree others moved
    have reordered : (shownComplaints display others).Perm (shownComplaints display outcomes) :=
      (moved.map _).filterMap _
    rw [ofShown_errors, ofShown_errors, Dictionary.ofList_eq_of_perm agree reordered]

/-- A report tells every history: it counts each event in total and as what it is; under a key it
has the last message that came for it; there are no more messages than events that went wrong, and
as many exactly if no key went wrong twice; and it is clean exactly if it has no messages. A report
over outcomes counts the same in any order of them, and if the keys that went wrong are shown by
different texts, it is the same report. For the messages alone to be the same in any order, it is
enough, and needed, that whatever went wrong under one text has one message. -/
theorem histories_are_told :
    (∀ events : List Event,
      (after events).total =
        (after events).succeeded + (after events).failed + (after events).timedOut ∧
        ((after events).total = events.length ∧ (after events).succeeded = events.count .success ∧
          (after events).failed = events.countP Event.isFailure ∧
          (after events).timedOut = events.countP Event.isTimeout) ∧
        (∀ key message, (after events).errors.lookup? key = some message ↔
          LastComplaint events key message) ∧
        (after events).errors.entries.length ≤ (after events).failed + (after events).timedOut ∧
        ((after events).errors.entries.length = (after events).failed + (after events).timedOut ↔
          ((complaints events).map Prod.fst).Nodup) ∧
        ((after events).isClean = true ↔ (after events).errors.isEmpty = true)) ∧
      ∀ {κ α : Type} (display : κ → String) (outcomes : List (κ × Outcome α)),
        (∀ others : List (κ × Outcome α), others.Perm outcomes →
          SameCounts (ofShown display others) (ofShown display outcomes) ∧
            (((shownComplaints display outcomes).map Prod.fst).Nodup →
              ofShown display others = ofShown display outcomes)) ∧
          ((∀ others : List (κ × Outcome α), others.Perm outcomes →
              (ofShown display others).errors = (ofShown display outcomes).errors) ↔
            Agree (shownComplaints display outcomes)) := by
  refine ⟨?histories, ?outcomes⟩
  case histories =>
    intro events
    obtain ⟨total, succeeded, failed, timedOut, errors⟩ := tells_after events
    have wrong : (complaints events).length = (after events).failed + (after events).timedOut := by
      rw [length_complaints, failed, timedOut]
    refine ⟨?_, ⟨total, succeeded, failed, timedOut⟩, ?_, ?_, ?_, ?_⟩
    · rw [total, succeeded, failed, timedOut, length_eq_counts]
    · intro key message
      rw [errors, Dictionary.lookup?_ofList_iff, lastComplaint_iff]
    · rw [← wrong, errors]
      exact Dictionary.length_entries_ofList_le _
    · rw [← wrong, errors, Dictionary.length_entries_ofList_eq_iff]
    · have silent : (after events).isClean = true ↔ (complaints events).length = 0 := by
        rw [wrong, isClean, Bool.and_eq_true, beq_iff_eq, beq_iff_eq, Nat.add_eq_zero_iff]
      rw [silent, errors, Dictionary.isEmpty_ofList_iff, List.length_eq_zero_iff]
  case outcomes =>
    intro κ α display outcomes
    have orderless := ofShown_orderless_iff display outcomes
    refine ⟨?_, orderless⟩
    intro others moved
    have counts := sameCounts_ofShown display moved
    refine ⟨counts, ?_⟩
    intro distinct
    have errors := orderless.mpr (Agree.of_nodup distinct) others moved
    exact counts.eq errors

end ReleaseFinder.Report
