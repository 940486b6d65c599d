/-!
# Places in a YAML text

A cursor is the rest of a text together with its line, its column, and the number of bytes before it
on that line. Line breaks are single characters here: `oneBreak` turns every pair of carriage return
and line feed, every lone carriage return and every next-line character into a line feed.
-/

namespace ReleaseFinder.Yaml

/-- The characters that a text may hold. -/
def isAllowed (c : Char) : Bool :=
  let point := c.toNat
  point == 0x09 || point == 0x0A || point == 0x0D || (0x20 ≤ point && point ≤ 0x7E) ||
    point == 0x85 || (0xA0 ≤ point && point ≤ 0xFFFD) || 0x10000 ≤ point

/-- The text with one line feed for every break but the line and paragraph separators. -/
def oneBreak : List Char → List Char
  | '\r' :: '\n' :: rest => '\n' :: oneBreak rest
  | '\r' :: rest => '\n' :: oneBreak rest
  | c :: rest => (if c = '\u0085' then '\n' else c) :: oneBreak rest
  | [] => []

/-- A blank within a line. -/
def isSpace (c : Char) : Bool :=
  c == ' ' || c == '\t'

/-- A line break. -/
def isBreak (c : Char) : Bool :=
  c == '\n' || c == '\u2028' || c == '\u2029'

/-- A blank or a line break. -/
def isGap (c : Char) : Bool :=
  isSpace c || isBreak c

/-- The text is over, or goes on with a character of a kind. -/
def endsOr (kind : Char → Bool) (rest : List Char) : Bool :=
  rest.head?.all kind

/-- A character of names: of anchors, tag handles and directives. -/
def isNameChar (c : Char) : Bool :=
  c.isAlphanum || c == '_' || c == '-'

/-- The length of a text in bytes. -/
def byteCount (text : List Char) : Nat :=
  text.foldr (fun c count => c.utf8Size + count) 0

/-- A place in a text. -/
structure Cursor where
  rest : List Char
  line : Nat := 0
  column : Nat := 0
  /-- The number of bytes before this place on its line. -/
  offset : Nat := 0

namespace Cursor

/-- The place after a number of characters on this line. -/
def skip (cursor : Cursor) (count : Nat) : Cursor :=
  { cursor with
    rest := cursor.rest.drop count
    column := cursor.column + count
    offset := cursor.offset + byteCount (cursor.rest.take count) }

/-- The start of the next line, from its break. -/
def skipBreak (cursor : Cursor) : Cursor :=
  { rest := cursor.rest.drop 1, line := cursor.line + 1 }

/-- The characters of a kind that come next, none of them a break, and the place after them. -/
def span (cursor : Cursor) (kind : Char → Bool) : List Char × Cursor :=
  let taken := cursor.rest.takeWhile kind
  (taken, cursor.skip taken.length)

/-- The place after the blanks of this line. -/
def skipSpaces (cursor : Cursor) : Cursor :=
  (cursor.span isSpace).2

/-- The place after a comment, if one begins here. -/
def skipComment (cursor : Cursor) : Cursor :=
  if cursor.rest.head? = some '#' then (cursor.span fun c => !isBreak c).2 else cursor

/-- A marker of three equal characters stands alone at the start of a line. -/
def atMarker (cursor : Cursor) (c : Char) : Bool :=
  cursor.column == 0 && [c, c, c].isPrefixOf cursor.rest && endsOr isGap (cursor.rest.drop 3)

/-- A document begins or ends here. -/
def atDocumentMarker (cursor : Cursor) : Bool :=
  cursor.atMarker '-' || cursor.atMarker '.'

end Cursor

end ReleaseFinder.Yaml
