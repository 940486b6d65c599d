import ReleaseFinder.Profile.Basic
import ReleaseFinder.Release.Record

/-!
# Records of profiles

Profiles and attributes as trees.
-/

namespace ReleaseFinder

/-- A profile from a tree. Every field may be left out. -/
def Profile.ofTree? (source : TreeSource) (tree : Tree) : Option Profile := do
  let fields ← Fields.ofTree? source
    ["name", "resolutions", "sources", "video_codecs", "audio_codecs", "hdr_formats",
      "allowed_resolutions", "min_size_mb", "max_size_mb"] [] tree
  some
    { name := ← fields.withDefault "name" "" Tree.text?
      resolutions := ← fields.withDefault "resolutions" [] Tree.texts?
      sources := ← fields.withDefault "sources" [] Tree.texts?
      videoCodecs := ← fields.withDefault "video_codecs" [] Tree.texts?
      audioCodecs := ← fields.withDefault "audio_codecs" [] Tree.texts?
      hdrFormats := ← fields.withDefault "hdr_formats" [] Tree.texts?
      allowedResolutions := ← fields.withDefault "allowed_resolutions" [] Tree.texts?
      minSizeMb := ← fields.optional "min_size_mb" Tree.number?
      maxSizeMb := ← fields.optional "max_size_mb" Tree.number? }

/-- A list of texts as a tree. -/
def textsTree (texts : List String) : Tree :=
  .list (texts.map .text)

/-- A profile as a tree. -/
def Profile.toTree (profile : Profile) : Tree :=
  .record ([("name", .text profile.name), ("resolutions", textsTree profile.resolutions),
    ("sources", textsTree profile.sources), ("video_codecs", textsTree profile.videoCodecs),
    ("audio_codecs", textsTree profile.audioCodecs),
    ("hdr_formats", textsTree profile.hdrFormats),
    ("allowed_resolutions", textsTree profile.allowedResolutions)] ++
    member? "min_size_mb" .float profile.minSizeMb ++
    member? "max_size_mb" .float profile.maxSizeMb)

/-- Attributes from a tree. -/
def Attributes.ofTree? (source : TreeSource) (tree : Tree) : Option Attributes := do
  let fields ← Fields.ofTree? source
    ["resolution", "source", "video_codec", "audio_codec", "hdr_format", "file_size_mb",
      "media_type"] [] tree
  some
    { resolution := ← fields.optionalByName "resolution" Tree.text?
      source := ← fields.optionalByName "source" Tree.text?
      videoCodec := ← fields.optionalByName "video_codec" Tree.text?
      audioCodec := ← fields.optionalByName "audio_codec" Tree.text?
      hdrFormat := ← fields.optionalByName "hdr_format" Tree.text?
      fileSizeMb := ← fields.required "file_size_mb" Tree.number?
      mediaType := ← fields.required "media_type" (MediaType.ofTree? source) }

/-- A text that may be absent, written as null when it is. -/
def textOrNull (text : Option String) : Tree :=
  (text.map Tree.text).getD .null

/-- Attributes as a tree. -/
def Attributes.toTree (attributes : Attributes) : Tree :=
  .record
    [("resolution", textOrNull attributes.resolution), ("source", textOrNull attributes.source),
      ("video_codec", textOrNull attributes.videoCodec),
      ("audio_codec", textOrNull attributes.audioCodec),
      ("hdr_format", textOrNull attributes.hdrFormat),
      ("file_size_mb", .float attributes.fileSizeMb),
      ("media_type", .text attributes.mediaType.name)]

end ReleaseFinder
