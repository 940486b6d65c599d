import ReleaseFinder.Release.Basic

/-!
# Attributes

A release's quality in the words that profiles use. Labels come in many spellings; each is brought
to lower case, and the spellings of one thing to one of them.
-/

namespace ReleaseFinder

/-- Spellings and the one that stands for them all. -/
abbrev AliasTable := List (List String × String)

/-- The spelling that stands for a lower-case spelling. -/
def AliasTable.canonical (table : AliasTable) (spelling : String) : String :=
  match table.find? fun entry => entry.1.contains spelling with
  | some entry => entry.2
  | none => spelling

namespace Attributes

def sourceAliases : AliasTable :=
  [(["web-dl", "webdl", "web"], "web-dl"),
   (["webrip", "web-rip"], "webrip"),
   (["bluray", "blu-ray"], "bluray")]

def videoCodecAliases : AliasTable :=
  [(["x264", "h.264", "h264", "avc"], "h264"),
   (["x265", "h.265", "h265", "hevc"], "h265")]

def audioCodecAliases : AliasTable :=
  [(["truehd atmos", "atmos"], "atmos"),
   (["dts:x", "dts-hd ma", "dts-hd"], "dts-hd"),
   (["dd+", "ddp", "e-ac3", "eac3"], "eac3"),
   (["dd", "ac-3", "ac3"], "ac3")]

def hdrFormatAliases : AliasTable :=
  [(["dv", "dovi", "dolby vision", "dolby_vision"], "dolby_vision"),
   (["hdr10+", "hdr10plus"], "hdr10plus"),
   (["hdr10", "hdr"], "hdr10")]

/-- A source in the words of profiles. -/
def normalSource (label : String) : String :=
  sourceAliases.canonical (Text.lower label)

/-- A video codec in the words of profiles. -/
def normalVideoCodec (label : String) : String :=
  videoCodecAliases.canonical (Text.lower label)

/-- An audio codec in the words of profiles. -/
def normalAudioCodec (label : String) : String :=
  audioCodecAliases.canonical (Text.lower label)

/-- A high dynamic range format in the words of profiles. -/
def normalHdrFormat (label : String) : String :=
  hdrFormatAliases.canonical (Text.lower label)

end Attributes

/-- What a profile is asked to judge. -/
structure Attributes where
  resolution : Option String := none
  source : Option String := none
  videoCodec : Option String := none
  audioCodec : Option String := none
  hdrFormat : Option String := none
  fileSizeMb : Float
  mediaType : MediaType

namespace Attributes

/-- The attributes of a quality. A picture with high dynamic range of no known format counts as the
most common one. -/
def ofQuality (quality : Quality) (fileSizeMb : Float) (mediaType : MediaType) : Attributes :=
  { resolution := quality.resolution.map Text.lower
    source := quality.source.map normalSource
    videoCodec := quality.codec.map normalVideoCodec
    audioCodec := quality.audio.map normalAudioCodec
    hdrFormat := match quality.hdrFormat with
      | some format => some (normalHdrFormat format)
      | none => if quality.hdr then some "hdr10" else none
    fileSizeMb
    mediaType }

/-- The attributes of a release. -/
def ofRelease (release : Release) (mediaType : MediaType) : Attributes :=
  match release.quality with
  | some quality => ofQuality quality release.sizeMb mediaType
  | none => { fileSizeMb := release.sizeMb, mediaType }

end Attributes

end ReleaseFinder
