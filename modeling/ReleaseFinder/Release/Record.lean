import ReleaseFinder.Release.Basic
import ReleaseFinder.Tree

/-!
# Records of releases

Releases, qualities and size windows as trees. Absent values are left out when they are written, and
may be null or left out when they are read.
-/

namespace ReleaseFinder

/-- A member that is written only when there is a value. -/
def member? {α : Type} (name : String) (write : α → Tree) : Option α → List (String × Tree)
  | none => []
  | some value => [(name, write value)]

/-- Quality attributes from a tree. -/
def Quality.ofTree? (source : TreeSource) (tree : Tree) : Option Quality := do
  let fields ← Fields.ofTree? source
    ["resolution", "source", "codec", "audio", "hdr", "hdr_format", "proper", "repack"] [] tree
  some
    { resolution := ← fields.optional "resolution" Tree.text?
      source := ← fields.optional "source" Tree.text?
      codec := ← fields.optional "codec" Tree.text?
      audio := ← fields.optional "audio" Tree.text?
      hdr := ← fields.withDefault "hdr" false Tree.bool?
      hdrFormat := ← fields.optional "hdr_format" Tree.text?
      proper := ← fields.withDefault "proper" false Tree.bool?
      repack := ← fields.withDefault "repack" false Tree.bool? }

/-- Quality attributes as a tree. -/
def Quality.toTree (quality : Quality) : Tree :=
  .record (member? "resolution" .text quality.resolution ++
    member? "source" .text quality.source ++ member? "codec" .text quality.codec ++
    member? "audio" .text quality.audio ++ [("hdr", .bool quality.hdr)] ++
    member? "hdr_format" .text quality.hdrFormat ++
    [("proper", .bool quality.proper), ("repack", .bool quality.repack)])

/-- A moment from a tree. -/
def Timestamp.ofTree? (tree : Tree) : Option Timestamp :=
  tree.text?.bind Timestamp.read?

/-- A release from a tree. -/
def Release.ofTree? (source : TreeSource) (tree : Tree) : Option Release := do
  let fields ← Fields.ofTree? source
    ["title", "size_bytes", "seeders", "leechers", "published_at", "quality", "indexer"]
    [("size", "size_bytes")] tree
  some
    { title := ← fields.required "title" Tree.text?
      sizeBytes := ← fields.required "size_bytes" (Tree.natural? 64)
      seeders := ← fields.withDefault "seeders" 0 (Tree.natural? 32)
      leechers := ← fields.withDefault "leechers" 0 (Tree.natural? 32)
      publishedAt := ← fields.optional "published_at" Timestamp.ofTree?
      quality := ← fields.optional "quality" (Quality.ofTree? source)
      indexer := ← fields.optional "indexer" Tree.text? }

/-- A release as a tree. -/
def Release.toTree (release : Release) : Tree :=
  .record ([("title", .text release.title), ("size_bytes", .integer release.sizeBytes),
    ("seeders", .integer release.seeders), ("leechers", .integer release.leechers)] ++
    member? "published_at" (fun moment => .text moment.write) release.publishedAt ++
    member? "quality" Quality.toTree release.quality ++ member? "indexer" .text release.indexer)

/-- A size window from a tree. -/
def SizeRange.ofTree? (source : TreeSource) (tree : Tree) : Option SizeRange := do
  let fields ← Fields.ofTree? source ["min_mb", "max_mb"] [] tree
  some
    { minMb := ← fields.optional "min_mb" Tree.number?
      maxMb := ← fields.optional "max_mb" Tree.number? }

/-- A size window as a tree. -/
def SizeRange.toTree (range : SizeRange) : Tree :=
  .record (member? "min_mb" .float range.minMb ++ member? "max_mb" .float range.maxMb)

/-- The name of a kind of media. -/
def MediaType.name : MediaType → String
  | .movie => "movie"
  | .episode => "episode"

/-- The kind of media with a name. -/
def MediaType.ofName? (name : String) : Option MediaType :=
  if name = "movie" then some .movie else if name = "episode" then some .episode else none

/-- A kind of media from a tree. Overlaid settings may give it by its number. -/
def MediaType.ofTree? (source : TreeSource) (tree : Tree) : Option MediaType :=
  match source, tree with
  | .overlaid, .integer 0 => some .movie
  | .overlaid, .integer 1 => some .episode
  | _, _ => (tree.variant? source).bind ofName?

end ReleaseFinder
