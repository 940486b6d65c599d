import ReleaseFinder.Dictionary

/-!
# Reports

The outcome of a job, and the report over many of them: how many succeeded, failed and ran out of
time, and what went wrong under which key. A key that goes wrong twice keeps its last message.
-/

namespace ReleaseFinder

/-- What became of a job. -/
inductive Outcome (α : Type) where
  | completed (value : α)
  | failed (message : String)
  | timedOut
deriving Repr, DecidableEq

/-- The message of a job that ran out of time. -/
def timedOutMessage : String := "timed out"

/-- What is wrong with an outcome. -/
def Outcome.error? {α : Type} : Outcome α → Option String
  | .completed _ => none
  | .failed message => some message
  | .timedOut => some timedOutMessage

/-- Counts over many jobs. -/
structure Report where
  total : Nat := 0
  succeeded : Nat := 0
  failed : Nat := 0
  timedOut : Nat := 0
  /-- Messages by the key of their job. -/
  errors : Dictionary String := .empty
deriving DecidableEq

namespace Report

/-- The report with one more success. -/
def recordSuccess (report : Report) : Report :=
  { report with total := report.total + 1, succeeded := report.succeeded + 1 }

/-- The report with one more failure. -/
def recordFailure (report : Report) (key message : String) : Report :=
  { report with
    total := report.total + 1
    failed := report.failed + 1
    errors := report.errors.insert key message }

/-- The report with one more job out of time. -/
def recordTimeout (report : Report) (key : String) : Report :=
  { report with
    total := report.total + 1
    timedOut := report.timedOut + 1
    errors := report.errors.insert key timedOutMessage }

/-- The report with one more outcome. -/
def record {α : Type} (report : Report) (key : String) : Outcome α → Report
  | .completed _ => report.recordSuccess
  | .failed message => report.recordFailure key message
  | .timedOut => report.recordTimeout key

/-- The report over outcomes with their keys. -/
def ofOutcomes {α : Type} (outcomes : List (String × Outcome α)) : Report :=
  outcomes.foldl (fun report outcome => report.record outcome.1 outcome.2) {}

/-- Nothing went wrong. -/
def isClean (report : Report) : Bool :=
  report.failed == 0 && report.timedOut == 0

end Report

end ReleaseFinder
