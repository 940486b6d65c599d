import ReleaseFinder.Report
import ReleaseFinder.Tree

/-!
# Records of reports

Reports as trees.
-/

namespace ReleaseFinder.Report

/-- The messages of a report as a tree. -/
def errorsTree (report : Report) : Tree :=
  .record (report.errors.entries.map fun entry => (entry.1, .text entry.2))

/-- The counts of a report. -/
def countMembers (report : Report) : List (String × Tree) :=
  [("total", .integer report.total), ("succeeded", .integer report.succeeded),
    ("failed", .integer report.failed), ("timed_out", .integer report.timedOut)]

/-- A report as a tree. Messages are left out when there are none. -/
def toTree (report : Report) : Tree :=
  .record (report.countMembers ++
    if report.errors.isEmpty then [] else [("errors", report.errorsTree)])

end ReleaseFinder.Report
