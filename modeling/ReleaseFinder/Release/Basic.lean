import ReleaseFinder.Quality.Basic
import ReleaseFinder.Timestamp

/-!
# Releases

A release as an indexer reports it, the kind of media searched for, and windows of acceptable sizes.
Classifying a release reads its quality from its title, unless the indexer has given it.
-/

namespace ReleaseFinder

/-- What is being searched for. -/
inductive MediaType where
  | movie
  | episode
deriving Repr, DecidableEq, Inhabited

/-- A release that an indexer offers. -/
structure Release where
  title : String
  sizeBytes : Nat
  seeders : Nat := 0
  leechers : Nat := 0
  publishedAt : Option Timestamp := none
  quality : Option Quality := none
  /-- The indexer that offers the release. -/
  indexer : Option String := none
deriving DecidableEq

namespace Release

/-- The size in mebibytes. -/
def sizeMb (release : Release) : Float :=
  Float.ofNat release.sizeBytes / 1048576.0

/-- The resolution, when it is known. -/
def resolution? (release : Release) : Option String :=
  release.quality.bind (·.resolution)

/-- The release with its quality read from the title, unless it has one. -/
def classified (release : Release) : Release :=
  match release.quality with
  | some _ => release
  | none => { release with quality := some (Quality.ofTitle release.title) }

end Release

/-- A window of sizes in mebibytes. A missing bound is no bound. -/
structure SizeRange where
  minMb : Option Float := none
  maxMb : Option Float := none

/-- Whether a size lies in the window. -/
def SizeRange.contains (range : SizeRange) (sizeMb : Float) : Bool :=
  range.minMb.all (fun least => decide (least ≤ sizeMb)) &&
    range.maxMb.all (fun most => decide (sizeMb ≤ most))

end ReleaseFinder
