import ReleaseFinder.Text.CaseData

/-!
# Lower case

Lower-casing of whole texts. One letter depends on its neighbours: a capital sigma at the end of a
word becomes the final sigma. One letter has an image of two characters: a capital dotted I. Beside
the full rule stands the one for ASCII letters alone, which never looks at neighbours.
-/

namespace ReleaseFinder.Text

/-- Whether a code point lies in one of the closed ranges. -/
def inRanges (ranges : List (Nat × Nat)) (point : Nat) : Bool :=
  ranges.any fun range => decide (range.1 ≤ point) && decide (point ≤ range.2)

/-- A letter with case. -/
def isCased (c : Char) : Bool :=
  inRanges casedRanges c.toNat

/-- A character that a word's end looks past. -/
def isIgnorable (c : Char) : Bool :=
  inRanges ignorableRanges c.toNat

/-- The lower-case image of a character on its own, where it is one character. -/
def lowerChar (c : Char) : Char :=
  match lowerCaseRuns.find? (·.holds c.toNat) with
  | none => c
  | some run => Char.ofNat ((c.toNat : Int) + run.shift).toNat

/-- Past the characters that do not count, the text goes on with a letter. -/
def meetsLetter (text : List Char) : Bool :=
  match text.dropWhile isIgnorable with
  | [] => false
  | c :: _ => isCased c

/-- A place ends a word when a letter stands before it and none after it. -/
def endsWord (before after : List Char) : Bool :=
  meetsLetter before && !meetsLetter after

/-- The lower-case image of a character, given the characters before it, nearest first, and
after. -/
def lowerInContext (before : List Char) (c : Char) (after : List Char) : List Char :=
  if c = 'Σ' then [if endsWord before after then 'ς' else 'σ']
  else if c = 'İ' then ['i', '\u0307']
  else [lowerChar c]

/-- The lower case of a text that follows the characters `before`, nearest first. -/
def lowerAfter (before : List Char) : List Char → List Char
  | [] => []
  | c :: rest => lowerInContext before c rest ++ lowerAfter (c :: before) rest

/-- The lower case of a text. -/
def lowerChars (text : List Char) : List Char :=
  lowerAfter [] text

/-- The lower case of a text. -/
def lower (text : String) : String :=
  String.ofList (lowerChars text.toList)

/-- The lower case of an ASCII letter; every other character stays. -/
def asciiLowerChar (c : Char) : Char :=
  if 'A' ≤ c ∧ c ≤ 'Z' then Char.ofNat (c.toNat + 32) else c

/-- The text with its ASCII letters in lower case. -/
def asciiLower (text : String) : String :=
  String.ofList (text.toList.map asciiLowerChar)

/-- Equality of texts up to the case of ASCII letters. -/
def sameLetters (left right : String) : Bool :=
  asciiLower left == asciiLower right

end ReleaseFinder.Text
