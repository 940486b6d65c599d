import ReleaseFinder.Profile.Attributes
import ReleaseFinder.Scalar

/-!
# Profiles

A quality profile lists, for each of five dimensions, the values it prefers, the best first. A value
earns the more of its dimension's weight the earlier it is listed; the weights add up to a hundred.
What a profile forbids are violations, and any of them halves the score. `Profile.scoreFrom` is the
formula over any score numbers.
-/

namespace ReleaseFinder

/-- Preferences over the attributes of releases. -/
structure Profile where
  name : String := ""
  resolutions : List String := []
  sources : List String := []
  videoCodecs : List String := []
  audioCodecs : List String := []
  hdrFormats : List String := []
  /-- Resolutions outside this list are violations; an empty list allows all. -/
  allowedResolutions : List String := []
  minSizeMb : Option Float := none
  maxSizeMb : Option Float := none

/-- The five dimensions of a profile. -/
inductive Dimension where
  | audioCodec
  | hdrFormat
  | resolution
  | source
  | videoCodec
deriving Repr, DecidableEq

namespace Dimension

/-- The dimensions in the order of their names. -/
def all : List Dimension :=
  [.audioCodec, .hdrFormat, .resolution, .source, .videoCodec]

/-- The name of a dimension. -/
def name : Dimension → String
  | .audioCodec => "audio_codec"
  | .hdrFormat => "hdr_format"
  | .resolution => "resolution"
  | .source => "source"
  | .videoCodec => "video_codec"

/-- The most that a dimension adds to a score. -/
def weight : Dimension → Nat
  | .resolution => 40
  | .source => 25
  | .videoCodec => 15
  | .audioCodec => 10
  | .hdrFormat => 10

/-- The values that a profile prefers, the best first. -/
def preferred (profile : Profile) : Dimension → List String
  | .resolution => profile.resolutions
  | .source => profile.sources
  | .videoCodec => profile.videoCodecs
  | .audioCodec => profile.audioCodecs
  | .hdrFormat => profile.hdrFormats

/-- The value of a release. -/
def value? (attributes : Attributes) : Dimension → Option String
  | .resolution => attributes.resolution
  | .source => attributes.source
  | .videoCodec => attributes.videoCodec
  | .audioCodec => attributes.audioCodec
  | .hdrFormat => attributes.hdrFormat

end Dimension

/-- The first position of a value in a list, up to the case of ASCII letters. -/
def position? (values : List String) (value : String) : Option Nat :=
  values.findIdx? fun listed => Text.sameLetters listed value

/-- What a profile finds wrong with a release. -/
inductive Violation where
  | resolutionNotAllowed
  | sizeBelowMinimum
  | sizeAboveMaximum
deriving Repr, DecidableEq

/-- The name of a violation. -/
def Violation.name : Violation → String
  | .resolutionNotAllowed => "resolution_not_allowed"
  | .sizeBelowMinimum => "size_below_minimum"
  | .sizeAboveMaximum => "size_above_maximum"

/-- A profile's judgement. -/
structure Judgement where
  score : Float
  breakdown : List (String × Float) := []
  violations : List String := []

/-- Whatever judges attributes. Its score is meant to lie between 0 and 100. -/
abbrev Scorer := Attributes → Judgement

namespace Profile

/-- The share of a dimension's weight that a value earns: half when there is no preference, nothing
when it is missing or not listed. -/
def preference {α : Type} [Scalar α] (preferred : List String) (value : Option String) : α :=
  if preferred.isEmpty then Scalar.ratio 1 2
  else
    match value.bind (position? preferred) with
    | some index => Scalar.ofNat 1 - Scalar.ratio index preferred.length
    | none => Scalar.ofNat 0

/-- What a dimension adds to the score. -/
def contribution {α : Type} [Scalar α] (profile : Profile) (attributes : Attributes)
    (dimension : Dimension) : α :=
  Scalar.ofNat dimension.weight *
    preference (dimension.preferred profile) (dimension.value? attributes)

/-- The resolution is one that the profile allows. -/
def allowsResolution (profile : Profile) (attributes : Attributes) : Bool :=
  profile.allowedResolutions.isEmpty ||
    attributes.resolution.any fun value => (position? profile.allowedResolutions value).isSome

/-- What the profile forbids about a release. -/
def violations (profile : Profile) (attributes : Attributes) : List Violation :=
  (if profile.allowsResolution attributes then [] else [.resolutionNotAllowed]) ++
    (if profile.minSizeMb.any (fun least => decide (attributes.fileSizeMb < least)) then
      [.sizeBelowMinimum] else []) ++
    (if profile.maxSizeMb.any (fun most => decide (most < attributes.fileSizeMb)) then
      [.sizeAboveMaximum] else [])

/-- The score made of the dimensions' contributions, halved by violations. -/
def scoreFrom {α : Type} [Scalar α] (contributions : List α) (violated : Bool) : α :=
  let sum := contributions.foldl (· + ·) (Scalar.ofNat 0)
  Scalar.clamp (Scalar.ofNat 0) (Scalar.ofNat 100)
    (if violated then sum / Scalar.ofNat 2 else sum)

/-- The score of a release. -/
def score {α : Type} [Scalar α] (profile : Profile) (attributes : Attributes) : α :=
  scoreFrom (Dimension.all.map (profile.contribution attributes))
    (!(profile.violations attributes).isEmpty)

/-- A profile as a judge. -/
def judge (profile : Profile) : Scorer := fun attributes =>
  { score := profile.score attributes
    breakdown := Dimension.all.map fun dimension =>
      (dimension.name, profile.contribution attributes dimension)
    violations := (profile.violations attributes).map Violation.name }

end Profile

end ReleaseFinder
