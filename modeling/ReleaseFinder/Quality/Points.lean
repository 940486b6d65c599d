import ReleaseFinder.Quality.Basic

/-!
# Quality points

Points for each label of the quality tables, and the score of a release's attributes: the sum of the
points of its labels, with a bonus for a corrected and for a repacked release.
-/

namespace ReleaseFinder.Quality

/-- The points of a label; a label that is not listed has none. -/
def pointsIn (table : List (String × Nat)) (label : String) : Nat :=
  (table.lookup label).getD 0

def resolutionTable : List (String × Nat) :=
  [("2160p", 1000), ("1080p", 800), ("720p", 600), ("576p", 400), ("480p", 300), ("360p", 200)]

def sourceTable : List (String × Nat) :=
  [("REMUX", 500), ("BluRay", 450), ("WEB-DL", 400), ("WEBRip", 350), ("HDTV", 300),
   ("DVDRip", 250), ("DVD", 200), ("SDTV", 150), ("Telecine", 100), ("Telesync", 75),
   ("Screener", 50), ("CAM", 25)]

def codecTable : List (String × Nat) :=
  [("x265", 150), ("H.265", 150), ("AV1", 140), ("x264", 100), ("H.264", 100), ("VP9", 80),
   ("XviD", 50), ("DivX", 40)]

def audioTable : List (String × Nat) :=
  [("TrueHD Atmos", 200), ("DTS:X", 190), ("TrueHD", 180), ("DTS-HD MA", 170), ("DTS-HD", 160),
   ("FLAC", 150), ("DD+", 120), ("DTS", 100), ("AC3", 80), ("AAC", 60), ("Opus", 50),
   ("Vorbis", 40), ("MP3", 30)]

def hdrTable : List (String × Nat) :=
  [("DV", 100), ("HDR10+", 80), ("HDR10", 60), ("HDR", 40)]

/-- The bonus of a corrected release. -/
def properBonus : Nat := 25

/-- The bonus of a repacked release. -/
def repackBonus : Nat := 15

/-- The points of a label that may be absent. -/
def labelPoints (table : List (String × Nat)) (label : Option String) : Nat :=
  (label.map (pointsIn table)).getD 0

/-- The score of a release's attributes. -/
def points (quality : Quality) : Nat :=
  labelPoints resolutionTable quality.resolution + labelPoints sourceTable quality.source +
    labelPoints codecTable quality.codec + labelPoints audioTable quality.audio +
    labelPoints hdrTable quality.hdrFormat + (if quality.proper then properBonus else 0) +
    (if quality.repack then repackBonus else 0)

end ReleaseFinder.Quality
