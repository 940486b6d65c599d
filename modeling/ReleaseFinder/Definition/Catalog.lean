import ReleaseFinder.Definition.Validation
import ReleaseFinder.Files
import ReleaseFinder.Pool

/-!
# Catalogs

The definitions of a folder. Every file is read on its own, and what is wrong with one does not
concern the others. Of several definitions with one id the one in the first file stays, in order of
names, however the files were listed and whichever was read first.
-/

namespace ReleaseFinder

/-- Definitions in order of their ids, and what became of the files that they are from. -/
structure Catalog where
  definitions : List Definition
  report : Report

/-- A definition file, with its text if it can be read. -/
structure DefinitionFile where
  name : String
  content : Except FileProblem String
  /-- The time that reading the file takes; none for a file that is never read to its end. -/
  delay : Option Nat := some 0

/-- What a definition file is called. -/
def isDefinitionName (name : String) : Bool :=
  (extension? name).any fun found => Text.sameLetters found "yml" || Text.sameLetters found "yaml"

namespace DefinitionFile

/-- The definition of a file, or what is said about it. -/
def definition (file : DefinitionFile) : Except String Definition :=
  match file.content with
  | .error problem => .error ("I/O error: " ++ problem.message)
  | .ok text => (Definition.ofValidText text).mapError Fault.tag

/-- A file as a job for the pool. -/
def job (file : DefinitionFile) : Job Definition :=
  { key := file.name, delay := file.delay, result := file.definition }

end DefinitionFile

/-- A file's name with what became of the file. -/
abbrev FileOutcome := String × Outcome Definition

/-- The definitions found so far, in the order of their files, and the outcomes for the report. -/
structure Gathering where
  definitions : List Definition := []
  verdicts : List (String × Outcome Unit) := []

namespace Gathering

/-- What is said about a definition whose id is taken. -/
def duplicateMessage (id : String) : String :=
  "duplicate definition id '" ++ id ++ "'"

/-- The definitions with those of one more file. -/
def add (gathering : Gathering) (outcome : FileOutcome) : Gathering :=
  let verdict (found : Outcome Unit) := gathering.verdicts ++ [(outcome.1, found)]
  match outcome.2 with
  | .completed definition =>
    if gathering.definitions.any (·.id == definition.id) then
      { gathering with verdicts := verdict (.failed (duplicateMessage definition.id)) }
    else
      { definitions := gathering.definitions ++ [definition], verdicts := verdict (.completed ()) }
  | .failed message => { gathering with verdicts := verdict (.failed message) }
  | .timedOut => { gathering with verdicts := verdict .timedOut }

end Gathering

/-- The outcomes in order of the names of their files. -/
def inFileOrder (outcomes : List FileOutcome) : List FileOutcome :=
  outcomes.mergeSort fun left right => decide (left.1 ≤ right.1)

/-- What is found in all files. -/
def gather (outcomes : List FileOutcome) : Gathering :=
  (inFileOrder outcomes).foldl Gathering.add {}

namespace Catalog

/-- The catalog of what is found in a folder. The report names files by their paths. -/
def ofGathering (folder : String) (gathering : Gathering) : Catalog :=
  { definitions := gathering.definitions.mergeSort fun left right => decide (left.id ≤ right.id)
    report := .ofOutcomes
      (gathering.verdicts.map fun verdict => (joinPath folder verdict.1, verdict.2)) }

/-- The catalog of the outcomes of a folder's files. -/
def ofOutcomes (folder : String) (outcomes : List FileOutcome) : Catalog :=
  ofGathering folder (gather outcomes)

/-- The definition files among files, in order of their names. -/
def definitionFiles (files : List DefinitionFile) : List DefinitionFile :=
  (files.filter fun file => isDefinitionName file.name).mergeSort fun left right =>
    decide (left.name ≤ right.name)

/-- The outcomes of a folder's definition files in a pool, in the order in which they end. -/
def outcomes (limits : PoolLimits) (files : List DefinitionFile) : List FileOutcome :=
  poolOutcomes limits ((definitionFiles files).map DefinitionFile.job)

/-- The catalog of a folder. -/
def load (limits : PoolLimits) (folder : String) (files : List DefinitionFile) : Catalog :=
  ofOutcomes folder (outcomes limits files)

/-- The definition with an id. -/
def get? (catalog : Catalog) (id : String) : Option Definition :=
  catalog.definitions.find? (·.id == id)

end Catalog

end ReleaseFinder
