import ReleaseFinder.Decimal.Binary
import ReleaseFinder.Decimal.Logarithm
import ReleaseFinder.Profile.Basic
import ReleaseFinder.Ranking.Acceptance
import ReleaseFinder.Relevance

/-!
# Scores

The score of a release: sixty per cent of its quality, plus ten for every power of ten of its
seeders, plus half of its relevance to the query. Without seeders it loses three tenths.
`Parts.total` is the formula over any score numbers. Without a profile, the seeders stand in for
quality, up to a hundred.
-/

namespace ReleaseFinder

/-- How releases are checked, scored and ordered. -/
structure Options extends Criteria where
  /-- Resolutions in order of preference. -/
  preferredQualities : List String := []
  searchQuery : Option String := none
  scorer : Option Scorer := none
  mediaType : MediaType := .movie

/-- The most quality that seeders can stand in for. -/
def fallbackQualityCap : Nat := 100

/-- What a score is made of. -/
structure Parts (α : Type) where
  /-- Quality, from 0 to 100. -/
  quality : α
  seeders : Nat
  /-- Relevance to the query, from 0 to 20. -/
  relevance : α

namespace Parts

variable {α : Type} [Scalar α]

/-- The part of the score that comes from quality. -/
def qualityPart (parts : Parts α) : α :=
  parts.quality * Scalar.ratio 6 10

/-- Ten times the decimal logarithm of one more than the seeders. -/
def seederScore (logarithm : Nat → α) (seeders : Nat) : α :=
  if seeders = 0 then Scalar.ofNat 0 else logarithm (seeders + 1) * Scalar.ofNat 10

/-- The part of the score that comes from the title. -/
def titlePart (parts : Parts α) : α :=
  parts.relevance / Scalar.ofNat 2

/-- What is kept of a score. -/
def penalty (seeders : Nat) : α :=
  if seeders = 0 then Scalar.ratio 7 10 else Scalar.ofNat 1

/-- The score. -/
def total (logarithm : Nat → α) (parts : Parts α) : α :=
  (parts.qualityPart + seederScore logarithm parts.seeders + parts.titlePart) *
    penalty parts.seeders

end Parts

/-- The score that seeders alone give. -/
def seederScore (seeders : Nat) : Float :=
  Parts.seederScore Decimal.logarithm seeders

/-- The parts of a score, each rounded to hundredths. -/
structure Breakdown where
  quality : Float
  seeders : Float
  titleMatch : Float
  total : Float

/-- A score with its parts and with what the profile found wrong. -/
structure Score where
  total : Float
  breakdown : Breakdown
  violations : List String

namespace Options

/-- The profile's judgement of a release, its score kept from 0 to 100. -/
def judgement? (options : Options) (release : Release) : Option Judgement :=
  options.scorer.map fun scorer =>
    let judgement := scorer (Attributes.ofRelease release options.mediaType)
    { judgement with score := Scalar.clamp 0.0 100.0 judgement.score }

/-- What the score of a release is made of. -/
def parts (options : Options) (release : Release) : Parts Float :=
  { quality := match options.judgement? release with
      | some judgement => judgement.score
      | none => Float.ofNat (min release.seeders fallbackQualityCap)
    seeders := release.seeders
    relevance := match options.searchQuery with
      | some query => Relevance.ofTitle release.title query
      | none => 0.0 }

/-- The score of a release. It is computed whether or not the release is acceptable. -/
def score (options : Options) (release : Release) : Score :=
  let parts := options.parts release
  let total := parts.total Decimal.logarithm
  { total
    breakdown :=
      { quality := Decimal.roundToHundredths parts.qualityPart
        seeders := Decimal.roundToHundredths (seederScore release.seeders)
        titleMatch := Decimal.roundToHundredths parts.titlePart
        total := Decimal.roundToHundredths total }
    violations := ((options.judgement? release).map (·.violations)).getD [] }

end Options

end ReleaseFinder
