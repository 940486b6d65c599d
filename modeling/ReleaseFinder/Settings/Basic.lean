import ReleaseFinder.Decimal.Shortest
import ReleaseFinder.Pool
import ReleaseFinder.Ranking.Score

/-!
# Settings

What a user may set: how releases are checked and ranked, where definitions are and how they are
loaded, and the quality profile. Settings that can be read may still make no sense; the first thing
that is wrong with them is reported.
-/

namespace ReleaseFinder

/-- How releases are checked and ranked. -/
structure ScoringSettings extends Criteria where
  /-- Resolutions in order of preference. -/
  preferredQualities : List String := []
  mediaType : MediaType := .movie

/-- Where definitions are and how they are loaded. -/
structure DefinitionSettings where
  folder : String := "definitions"
  /-- How many files are read at once. -/
  maxConcurrency : Nat := 8
  /-- The seconds that a file may take. -/
  timeoutSeconds : Nat := 10
deriving Repr, DecidableEq

/-- All settings. -/
structure Settings where
  scoring : ScoringSettings := {}
  definitions : DefinitionSettings := {}
  profile : Option Profile := none

/-- The limits of a pool that loads definitions. Times are in milliseconds. -/
def DefinitionSettings.limits (settings : DefinitionSettings) : PoolLimits :=
  { maxConcurrency := settings.maxConcurrency, timeout := settings.timeoutSeconds * 1000 }

/-- How releases are checked, scored and ordered. -/
def Settings.options (settings : Settings) : Options :=
  { toCriteria := settings.scoring.toCriteria
    preferredQualities := settings.scoring.preferredQualities
    mediaType := settings.scoring.mediaType
    scorer := settings.profile.map Profile.judge }

/-- What makes no sense about settings. -/
inductive SettingsFault where
  | ratioOutOfRange (ratio : Float)
  | sizesReversed (least most : Float)
  | noConcurrency
  | noTime

namespace SettingsFault

/-- A number in a message. -/
def numberText : Float → String :=
  Decimal.shortest Decimal.plainStyle

/-- What is said about a fault. -/
def reason : SettingsFault → String
  | .ratioOutOfRange ratio =>
    "scoring.min_ratio must be between 0 and 1, got " ++ numberText ratio
  | .sizesReversed least most =>
    "scoring.size_range.min_mb (" ++ numberText least ++ ") exceeds max_mb (" ++
      numberText most ++ ")"
  | .noConcurrency => "definitions.max_concurrency cannot be 0"
  | .noTime => "definitions.task_timeout_secs cannot be 0"

/-- The message of a fault. -/
def message (fault : SettingsFault) : String :=
  "Configuration validation failed: " ++ fault.reason

end SettingsFault

namespace Settings

/-- The least share of seeders lies between nothing and everything. -/
def ratioFault? (settings : Settings) : Option SettingsFault :=
  match settings.scoring.minRatio with
  | some ratio =>
    if decide (0.0 ≤ ratio) && decide (ratio ≤ 1.0) then none else some (.ratioOutOfRange ratio)
  | none => none

/-- The least size does not lie above the greatest one. -/
def sizeFault? (settings : Settings) : Option SettingsFault :=
  match settings.scoring.sizeRange with
  | some { minMb := some least, maxMb := some most } =>
    if most < least then some (.sizesReversed least most) else none
  | _ => none

/-- What makes no sense about settings: the first of the checks that fails. -/
def fault? (settings : Settings) : Option SettingsFault :=
  settings.ratioFault? <|> settings.sizeFault? <|>
    (if settings.definitions.maxConcurrency = 0 then some .noConcurrency else none) <|>
    (if settings.definitions.timeoutSeconds = 0 then some .noTime else none)

end Settings

end ReleaseFinder
