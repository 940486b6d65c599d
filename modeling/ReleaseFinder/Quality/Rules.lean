import ReleaseFinder.Pattern

/-!
# Quality rules

The tables that name what a release title promises. Each table is an ordered list of rules, and the
first rule whose pattern occurs in the title gives the label, so a specific label stands before the
general ones that it contains.
-/

namespace ReleaseFinder.Quality

/-- A label and the pattern that earns it. -/
structure Rule where
  label : String
  pattern : Pattern

/-- The label of the first rule whose pattern occurs in the title. -/
def firstLabel? (rules : List Rule) (title : List Char) : Option String :=
  (rules.find? fun rule => rule.pattern.occursIn title).map (·.label)

open Pattern

/-- Resolutions, the largest first. -/
def resolutionRules : List Rule :=
  [⟨"2160p", anyOf ["2160p", word "4k", word "uhd"]⟩,
   ⟨"1080p", inOrder ["1080", oneOf "pi"]⟩,
   ⟨"720p", "720p"⟩,
   ⟨"576p", inOrder ["576", oneOf "pi"]⟩,
   ⟨"480p", inOrder ["480", oneOf "pi"]⟩,
   ⟨"360p", "360p"⟩]

/-- Sources, from discs down to cinemas. -/
def sourceRules : List Rule :=
  [⟨"REMUX", word "remux"⟩,
   ⟨"BluRay", anyOf [inOrder ["blu", optional "-", "ray"], word "bdrip", word "brrip",
      word (inOrder ["bd", anyOf ["25", "50"]])]⟩,
   ⟨"WEBRip", inOrder ["web", optional (oneOf "-. "), "rip"]⟩,
   ⟨"WEB-DL", anyOf [inOrder ["web", optional (oneOf "-. "), "dl"], word "web"]⟩,
   ⟨"HDTV", word "hdtv"⟩,
   ⟨"DVDRip", inOrder ["dvd", optional (oneOf "-. "), "rip"]⟩,
   ⟨"DVD", word (inOrder ["dvd", optional (anyOf ["r", "5", "9"])])⟩,
   ⟨"SDTV", anyOf [word "sdtv", word "pdtv"]⟩,
   ⟨"Telecine", anyOf [word "telecine", word "hdtc", word "tc"]⟩,
   ⟨"Telesync", anyOf [word "telesync", word "hdts", word "ts"]⟩,
   ⟨"Screener", anyOf [word "screener", word "dvdscr", word "scr"]⟩,
   ⟨"CAM", anyOf [word "cam", word "hdcam", word "camrip"]⟩]

/-- Video codecs. -/
def codecRules : List Rule :=
  [⟨"x265", inOrder ["x", optional ".", "265"]⟩,
   ⟨"H.265", anyOf [inOrder ["h", optional ".", "265"], word "hevc"]⟩,
   ⟨"AV1", word "av1"⟩,
   ⟨"x264", inOrder ["x", optional ".", "264"]⟩,
   ⟨"H.264", anyOf [inOrder ["h", optional ".", "264"], word "avc"]⟩,
   ⟨"VP9", word "vp9"⟩,
   ⟨"XviD", word "xvid"⟩,
   ⟨"DivX", word "divx"⟩]

/-- Audio codecs. -/
def audioRules : List Rule :=
  [⟨"TrueHD Atmos", anyOf [inOrder ["true", optional "-", "hd", gap, "atmos"],
      inOrder ["atmos", gap, "true", optional "-", "hd"]]⟩,
   ⟨"DTS:X", inOrder ["dts", optional (oneOf ":. -"), "x", boundary]⟩,
   ⟨"TrueHD", inOrder ["true", optional "-", "hd"]⟩,
   ⟨"DTS-HD MA", inOrder ["dts", optional (oneOf "-. "), "hd", optional (oneOf "-. "), "ma"]⟩,
   ⟨"DTS-HD", inOrder ["dts", optional (oneOf "-. "), "hd"]⟩,
   ⟨"FLAC", inOrder [boundary, "flac"]⟩,
   ⟨"DD+", anyOf [inOrder [boundary, "ddp"], "dd+",
      inOrder [boundary, "e", optional "-", "ac", optional "-", "3"]]⟩,
   ⟨"DTS", inOrder [boundary, "dts"]⟩,
   ⟨"AC3", anyOf [word (inOrder ["ac", optional "-", "3"]),
      inOrder [boundary, "dd", optional (oneOf " ."), oneOf "257", optional ".", oneOf "01"],
      word "dd", inOrder ["dolby", optional (oneOf " ."), "digital"]]⟩,
   ⟨"AAC", inOrder [boundary, "aac"]⟩,
   ⟨"Opus", word "opus"⟩,
   ⟨"Vorbis", anyOf [word "vorbis", word "ogg"]⟩,
   ⟨"MP3", word "mp3"⟩]

/-- High dynamic range formats. -/
def hdrRules : List Rule :=
  [⟨"DV", anyOf [word "dv", word "dovi", inOrder ["dolby", optional (oneOf " ."), "vision"]]⟩,
   ⟨"HDR10+", inOrder ["hdr10", anyOf ["+", "plus"]]⟩,
   ⟨"HDR10", "hdr10"⟩,
   ⟨"HDR", word "hdr"⟩]

/-- A second, corrected release. -/
def properPattern : Pattern := word "proper"

/-- A release packed again by its own group. -/
def repackPattern : Pattern := word "repack"

end ReleaseFinder.Quality
