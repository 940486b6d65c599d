import ReleaseFinder.Dictionary

/-!
# Tallies

What the engine counts while it works: definitions parsed, definition files loaded, titles
classified, releases rejected and scored, and the numbers of releases that were ranked together. A
tally is a value; an operation that counts hands on the tally with its own counts added.
-/

namespace ReleaseFinder

/-- Counts by label. -/
abbrev LabelCounts := Dictionary Nat

/-- The count of a label. -/
def LabelCounts.count (counts : LabelCounts) (label : String) : Nat :=
  (counts.lookup? label).getD 0

/-- The counts with one more of a label. -/
def LabelCounts.add (counts : LabelCounts) (label : String) : LabelCounts :=
  counts.insert label (LabelCounts.count counts label + 1)

/-- Everything that is counted. -/
structure Tally where
  /-- Definitions parsed, by `ok` or the code of their error. -/
  parsed : LabelCounts := .empty
  /-- Definition files, by what became of them. -/
  files : LabelCounts := .empty
  /-- Classified titles, by whether anything was recognised. -/
  titles : LabelCounts := .empty
  scored : Nat := 0
  /-- Rejected releases, by reason. -/
  rejected : LabelCounts := .empty
  /-- The numbers of releases ranked together, the latest first. -/
  candidates : List Nat := []

namespace Tally

/-- The bounds below which numbers of ranked releases are counted together. -/
def candidateBounds : List Nat :=
  [0, 1, 5, 10, 25, 50, 100, 250, 500]

/-- How often at most `bound` releases were ranked together. -/
def candidatesUpTo (tally : Tally) (bound : Nat) : Nat :=
  tally.candidates.countP fun count => decide (count ≤ bound)

/-- How many releases were ranked, over all rankings. -/
def candidateTotal (tally : Tally) : Nat :=
  tally.candidates.foldl (· + ·) 0

end Tally

/-- A computation that counts. -/
abbrev Counted (α : Type) := StateM Tally α

namespace Counted

/-- Counts a parsed definition. -/
def definitionParsed (label : String) : Counted Unit :=
  modify fun tally => { tally with parsed := LabelCounts.add tally.parsed label }

/-- Counts a definition file. -/
def fileLoaded (label : String) : Counted Unit :=
  modify fun tally => { tally with files := LabelCounts.add tally.files label }

/-- Counts a classified title. -/
def titleClassified (label : String) : Counted Unit :=
  modify fun tally => { tally with titles := LabelCounts.add tally.titles label }

/-- Counts a rejected release. -/
def releaseRejected (label : String) : Counted Unit :=
  modify fun tally => { tally with rejected := LabelCounts.add tally.rejected label }

/-- Counts a scored release. -/
def releaseScored : Counted Unit :=
  modify fun tally => { tally with scored := tally.scored + 1 }

/-- Counts releases that are ranked together. -/
def candidatesSeen (count : Nat) : Counted Unit :=
  modify fun tally => { tally with candidates := count :: tally.candidates }

end Counted

end ReleaseFinder
