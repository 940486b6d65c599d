import ReleaseFinder.Definition.Catalog
import ReleaseFinder.Ranking.Basic
import ReleaseFinder.Tally

/-!
# The counting engine

Classification, ranking and the loading of definitions as a service performs them: the results are
those of the plain operations, and every title classified, every release rejected, scored or ranked,
and every definition and definition file is counted.
-/

namespace ReleaseFinder.Engine

/-- Counts a title by what was recognised in it. -/
def countTitle (quality : Quality) : Counted Unit :=
  Counted.titleClassified (if quality.isUnknown then "unknown" else "recognized")

/-- The quality that a title names. -/
def classifyTitle (title : String) : Counted Quality := do
  let quality := Quality.ofTitle title
  countTitle quality
  pure quality

/-- Releases with their quality read from their titles, unless they have one. -/
def classify (releases : List Release) : Counted (List Release) := do
  releases.forM fun release =>
    if release.quality.isNone then countTitle (Quality.ofTitle release.title) else pure ()
  pure (releases.map Release.classified)

/-- Counts the releases that are rejected. -/
def countRejections (options : Options) (releases : List Release) : Counted Unit :=
  releases.forM fun release =>
    (options.rejection? release).forM fun reason => Counted.releaseRejected reason.name

/-- Counts the releases that are scored. -/
def countScores (options : Options) (releases : List Release) : Counted Unit :=
  (options.acceptable releases).forM fun _ => Counted.releaseScored

/-- The acceptable releases. -/
def acceptable (options : Options) (releases : List Release) : Counted (List Release) := do
  countRejections options releases
  pure (options.acceptable releases)

/-- The acceptable releases, the best first. -/
def rank (options : Options) (releases : List Release) : Counted (List Ranked) := do
  Counted.candidatesSeen releases.length
  countRejections options releases
  countScores options releases
  pure (options.rank releases)

/-- The best acceptable release. -/
def best? (options : Options) (releases : List Release) : Counted (Option Ranked) := do
  return (← rank options releases).head?

/-- Every release with its verdict. -/
def assess (options : Options) (releases : List Release) : Counted (List Assessed) := do
  countRejections options releases
  countScores options releases
  pure (options.assess releases)

/-- Counts a definition that was read, by what is wrong with it. -/
def countDefinition (definition : Reading Definition) : Counted Unit :=
  Counted.definitionParsed
    (match definition with
      | .ok _ => "ok"
      | .error fault => fault.code)

/-- A definition from its text. -/
def readDefinition (text : String) : Counted (Reading Definition) := do
  let definition := Definition.ofText text
  countDefinition definition
  pure definition

/-- A definition of use, from its text. -/
def checkDefinition (text : String) : Counted (Reading Definition) := do
  return (← readDefinition text).bind Definition.validated

/-- The label under which a definition file is counted. -/
def fileLabel : Outcome Unit → String
  | .completed _ => "loaded"
  | .failed _ => "failed"
  | .timedOut => "timed_out"

/-- Counts the definition of a file, if its text is read in time. -/
def countFile (limits : PoolLimits) (file : DefinitionFile) : Counted Unit :=
  match file.content with
  | .ok text =>
    if file.job.endsInTime limits.timeout then countDefinition (Definition.ofText text)
    else pure ()
  | .error _ => pure ()

/-- The catalog of a folder. -/
def loadCatalog (limits : PoolLimits) (folder : String) (files : List DefinitionFile) :
    Counted Catalog := do
  (Catalog.definitionFiles files).forM (countFile limits)
  let gathering := gather (Catalog.outcomes limits files)
  gathering.verdicts.forM fun verdict => Counted.fileLoaded (fileLabel verdict.2)
  pure (.ofGathering folder gathering)

end ReleaseFinder.Engine
