import ReleaseFinder.Profile.Record
import ReleaseFinder.Ranking.Basic

/-!
# Records of rankings

Scores, ranked releases and verdicts as trees.
-/

namespace ReleaseFinder

/-- The parts of a score as a tree. Size, age and tags have parts of their own that are always
zero. -/
def Breakdown.toTree (breakdown : Breakdown) : Tree :=
  .record
    [("quality", .float breakdown.quality), ("seeders", .float breakdown.seeders),
      ("size", .float 0.0), ("age", .float 0.0), ("title_match", .float breakdown.titleMatch),
      ("tag_bonus", .float 0.0), ("total", .float breakdown.total)]

/-- The members that a score adds to a record. -/
def Score.members (score : Score) : List (String × Tree) :=
  [("score", .float score.total), ("breakdown", score.breakdown.toTree)] ++
    if score.violations.isEmpty then [] else [("violations", textsTree score.violations)]

/-- A score as a tree. -/
def Score.toTree (score : Score) : Tree :=
  .record score.members

/-- A ranked release as a tree. -/
def Ranked.toTree (ranked : Ranked) : Tree :=
  .record (("result", ranked.release.toTree) :: ranked.score.members)

/-- The reason of a rejection. -/
def Assessed.rejection? (assessed : Assessed) : Option Rejection :=
  match assessed.verdict with
  | .accepted _ => none
  | .rejected reason => some reason

/-- The members of a release with its verdict. -/
def Assessed.members (assessed : Assessed) : List (String × Tree) :=
  [("result", assessed.release.toTree), ("score", .float assessed.score)] ++
    match assessed.verdict with
    | .accepted breakdown => [("status", .text "accepted"), ("breakdown", breakdown.toTree)]
    | .rejected reason => [("status", .text "rejected"), ("reason", .text reason.name)]

/-- A release with its verdict as a tree. -/
def Assessed.toTree (assessed : Assessed) : Tree :=
  .record assessed.members

end ReleaseFinder
