import ReleaseFinder.Ranking.Score

/-!
# Ranking

The order of releases. Acceptable releases are sorted by score, the highest first, or by the place
of their resolution among the preferred ones and then by score. Equal releases keep the order in
which they were found.
-/

namespace ReleaseFinder

/-- An acceptable release with its score. -/
structure Ranked where
  release : Release
  score : Score

/-- What became of a release. -/
inductive Verdict where
  | accepted (breakdown : Breakdown)
  | rejected (reason : Rejection)

/-- A release with its verdict; a rejected one has a score of zero. -/
structure Assessed where
  release : Release
  score : Float
  verdict : Verdict

/-- The place of resolutions that are not preferred. -/
def unlistedPlace : Nat := 999

namespace Options

/-- The place of a release's resolution among the preferred ones. -/
def preferencePlace (options : Options) (release : Release) : Nat :=
  (release.resolution?.bind (position? options.preferredQualities)).getD unlistedPlace

/-- A score comes before another, or with it. -/
def scoreNotAfter (left right : Float) : Bool :=
  decide (Decimal.rank right ≤ Decimal.rank left)

/-- A release comes before another, or with it. -/
def notAfter (options : Options) (left right : Ranked) : Bool :=
  if options.preferredQualities.isEmpty then scoreNotAfter left.score.total right.score.total
  else
    let leftPlace := options.preferencePlace left.release
    let rightPlace := options.preferencePlace right.release
    decide (leftPlace < rightPlace) ||
      (decide (leftPlace = rightPlace) && scoreNotAfter left.score.total right.score.total)

/-- The acceptable releases, in the order found. -/
def acceptable (options : Options) (releases : List Release) : List Release :=
  releases.filter options.accepts

/-- A release with its score. -/
def ranked (options : Options) (release : Release) : Ranked :=
  ⟨release, options.score release⟩

/-- The acceptable releases, the best first. -/
def rank (options : Options) (releases : List Release) : List Ranked :=
  ((options.acceptable releases).map options.ranked).mergeSort options.notAfter

/-- The best acceptable release. -/
def best? (options : Options) (releases : List Release) : Option Ranked :=
  (options.rank releases).head?

/-- A release with its verdict. -/
def assessed (options : Options) (release : Release) : Assessed :=
  match options.rejection? release with
  | some reason => ⟨release, 0.0, .rejected reason⟩
  | none =>
    let score := options.score release
    ⟨release, score.total, .accepted score.breakdown⟩

/-- Every release with its verdict, by score. -/
def assess (options : Options) (releases : List Release) : List Assessed :=
  (releases.map options.assessed).mergeSort fun left right =>
    scoreNotAfter left.score right.score

/-- What the profile is asked about while releases are scored, in order. -/
def inquiries (options : Options) (releases : List Release) : List Attributes :=
  (options.acceptable releases).map fun release =>
    Attributes.ofRelease release options.mediaType

end Options

end ReleaseFinder
