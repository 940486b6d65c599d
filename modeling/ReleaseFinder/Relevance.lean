import ReleaseFinder.Text.Blank
import ReleaseFinder.Text.LowerCase
import ReleaseFinder.Pattern
import ReleaseFinder.Scalar

/-!
# Relevance

How well a title answers a query. Both are split into words, and four facts are counted: the words
of the query, how many of them the title has, whether both begin alike, and how many words of the
title are neither asked for nor part of a release's name. `Overlap.relevance` turns the counts into
a number from 0 to 20.
-/

namespace ReleaseFinder.Relevance

/-- A word of a title or of a query. -/
abbrev Word := List Char

/-- The characters between words: blanks, points, underscores and hyphens. -/
def separatesWords (c : Char) : Bool :=
  c == '.' || c == '_' || c == '-' || Text.isBlank c

/-- The words of a text, in lower case. -/
def words (text : String) : List Word :=
  Text.pieces separatesWords (Text.lowerChars text.toList)

/-- Words that say nothing about what is searched for. -/
def stopwords : List Word :=
  ["the", "a", "an", "of", "and", "or", "in", "on", "at", "to", "for"].map String.toList

/-- Words of release names that describe the copy and not the content. -/
def releaseTokens : List Word :=
  ["2160p", "1080p", "1080i", "720p", "576p", "480p", "360p", "4k", "uhd",
   "remux", "bluray", "blu", "ray", "bdrip", "brrip", "web", "dl", "webdl", "webrip", "rip",
   "hdtv", "dvdrip", "dvd", "dvdr", "sdtv", "pdtv", "hdrip", "cam", "hdcam", "camrip", "ts",
   "hdts", "telesync", "tc", "hdtc", "telecine", "scr", "screener", "dvdscr",
   "x264", "x265", "h264", "h265", "hevc", "avc", "av1", "vp9", "xvid", "divx", "10bit",
   "8bit",
   "aac", "ac3", "dts", "hd", "ma", "truehd", "atmos", "flac", "dd", "ddp", "eac3", "opus",
   "vorbis", "mp3", "dts:x",
   "hdr", "hdr10", "hdr10+", "hdr10plus", "dv", "dovi", "sdr",
   "proper", "repack"].map String.toList

/-- A season, an episode, or both: `s01`, `s01e02`, `e02`. -/
def episodeMarker : Pattern :=
  .anyOf
    [.inOrder ["s", .one .digit, .many .digit, .optional "e", .many .digit],
     .inOrder ["e", .one .digit, .many .digit]]

/-- The season and episode markers are written with small letters. -/
def isEpisodeMarker (word : Word) : Bool :=
  word.all (fun c => Text.asciiLowerChar c == c) && episodeMarker.coversAll word

/-- A year from 1900 to 2100, in four digits. -/
def isYear (word : Word) : Bool :=
  decide (word.length = 4) && word.all Char.isDigit &&
    (let year := word.foldl (fun value c => value * 10 + (c.toNat - '0'.toNat)) 0
     decide (1900 ≤ year) && decide (year ≤ 2100))

/-- A word that every release name may have. -/
def isReleaseToken (word : Word) : Bool :=
  releaseTokens.contains word || isEpisodeMarker word || isYear word

/-- One of the words is a beginning of the other. -/
def agree (left right : Word) : Bool :=
  right.isPrefixOf left || left.isPrefixOf right

/-- The first word that says something. -/
def firstSignificant? (words : List Word) : Option Word :=
  words.find? fun word => !stopwords.contains word

/-- Both texts have a significant word, and their first ones are equal. -/
def beginAlike (query title : List Word) : Bool :=
  match firstSignificant? query, firstSignificant? title with
  | some asked, some named => asked == named
  | _, _ => false

/-- What a title and a query have in common. -/
structure Overlap where
  /-- The words of the query. -/
  asked : Nat
  /-- The words of the query that some word of the title agrees with. -/
  found : Nat
  beginsAlike : Bool
  /-- The words of the title that are neither asked for nor release tokens. -/
  extra : Nat
deriving Repr, DecidableEq

/-- The overlap of a title's words with a query's. -/
def Overlap.ofWords (title query : List Word) : Overlap :=
  { asked := query.length
    found := query.countP fun asked => title.any fun named => agree named asked
    beginsAlike := beginAlike query title
    extra := title.countP fun named => !query.contains named && !isReleaseToken named }

/-- The overlap as a number from 0 to 20: up to fifteen for the words found, five for a common
beginning, and two off for each extra word, ten at most. -/
def Overlap.relevance {α : Type} [Scalar α] (overlap : Overlap) : α :=
  if overlap.asked = 0 then Scalar.ofNat 0
  else
    Scalar.clamp (Scalar.ofNat 0) (Scalar.ofNat 20)
      (Scalar.ratio overlap.found overlap.asked * Scalar.ofNat 15 +
        Scalar.ofNat (if overlap.beginsAlike then 5 else 0) -
        Scalar.ofNat (min (2 * overlap.extra) 10))

/-- The relevance of a title to a query. -/
def ofTitle {α : Type} [Scalar α] (title query : String) : α :=
  (Overlap.ofWords (words title) (words query)).relevance

end ReleaseFinder.Relevance
