import ReleaseFinder.Release.Basic
import ReleaseFinder.Text.Blank
import ReleaseFinder.Text.Occurs

/-!
# Acceptance

The checks that a release must pass before it is ranked: enough seeders, enough seeders among its
peers, an acceptable size, and no blocked tag in its title. The first check that fails is the reason
of the rejection.
-/

namespace ReleaseFinder

/-- What a release must satisfy. -/
structure Criteria where
  minSeeders : Nat := 0
  /-- The least share of seeders among all peers. -/
  minRatio : Option Float := none
  sizeRange : Option SizeRange := none
  /-- Parts of titles that are refused, in any letter case. -/
  blockedTags : List String := []

/-- The checks, in the order in which they are made. -/
inductive Rejection where
  | lowSeeders
  | lowRatio
  | sizeOutOfRange
  | blockedTag
deriving Repr, DecidableEq

namespace Rejection

/-- The name of a rejection. -/
def name : Rejection → String
  | .lowSeeders => "low_seeders"
  | .lowRatio => "low_ratio"
  | .sizeOutOfRange => "size_out_of_range"
  | .blockedTag => "blocked_tag"

/-- Every rejection. -/
def all : List Rejection :=
  [.lowSeeders, .lowRatio, .sizeOutOfRange, .blockedTag]

end Rejection

namespace Criteria

/-- The share of seeders is too low. A release without peers has no share. -/
def failsRatio (criteria : Criteria) (release : Release) : Bool :=
  let peers := release.seeders + release.leechers
  criteria.minRatio.any fun least =>
    decide (0 < peers) && decide (Float.ofNat release.seeders / Float.ofNat peers < least)

/-- The size lies outside the window. -/
def failsSize (criteria : Criteria) (release : Release) : Bool :=
  criteria.sizeRange.any fun range => !range.contains release.sizeMb

/-- The characters of a tag that count: none of the blanks at its ends. -/
def tagText (tag : String) : List Char :=
  Text.trimChars tag.toList

/-- A blocked tag occurs in the title, both in lower case. -/
def hasBlockedTag (criteria : Criteria) (release : Release) : Bool :=
  let title := Text.lowerChars release.title.toList
  criteria.blockedTags.any fun tag =>
    !(tagText tag).isEmpty && Text.occurs (Text.lowerChars (tagText tag)) title

/-- The first check that a release fails. -/
def rejection? (criteria : Criteria) (release : Release) : Option Rejection :=
  if release.seeders < criteria.minSeeders then some .lowSeeders
  else if criteria.failsRatio release then some .lowRatio
  else if criteria.failsSize release then some .sizeOutOfRange
  else if criteria.hasBlockedTag release then some .blockedTag
  else none

/-- The release passes every check. -/
def accepts (criteria : Criteria) (release : Release) : Bool :=
  (criteria.rejection? release).isNone

end Criteria

end ReleaseFinder
