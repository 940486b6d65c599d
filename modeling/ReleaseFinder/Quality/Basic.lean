import ReleaseFinder.Quality.Rules

/-!
# Quality

What a release title says about its picture, sound and origin. Each attribute is read from the title
on its own, and one that cannot be recognised stays absent.
-/

namespace ReleaseFinder

/-- The quality attributes of a release. -/
structure Quality where
  resolution : Option String := none
  source : Option String := none
  codec : Option String := none
  audio : Option String := none
  hdr : Bool := false
  hdrFormat : Option String := none
  proper : Bool := false
  repack : Bool := false
deriving Repr, DecidableEq, Inhabited

namespace Quality

/-- The attributes that a title names. -/
def ofTitle (title : String) : Quality :=
  let characters := title.toList
  let hdrFormat := firstLabel? hdrRules characters
  { resolution := firstLabel? resolutionRules characters
    source := firstLabel? sourceRules characters
    codec := firstLabel? codecRules characters
    audio := firstLabel? audioRules characters
    hdr := hdrFormat.isSome
    hdrFormat
    proper := properPattern.occursIn characters
    repack := repackPattern.occursIn characters }

/-- Nothing is known about the release. -/
def isUnknown (quality : Quality) : Bool :=
  quality.resolution.isNone && quality.source.isNone && quality.codec.isNone &&
    quality.audio.isNone && quality.hdrFormat.isNone && !quality.hdr && !quality.proper &&
    !quality.repack

end Quality

end ReleaseFinder
