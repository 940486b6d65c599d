import ReleaseFinder.Yaml.Cursor
import ReleaseFinder.Json.Reader

/-!
# Scalars of YAML

The texts of plain, quoted and block scalars. Between two parts of a plain or quoted scalar lies a
gap: blanks, which are kept, or line breaks, which are folded. A single break is folded into a
blank, and of several the first is dropped.
-/

namespace ReleaseFinder.Yaml

/-- What separates two parts of a scalar. -/
inductive Gap where
  | blanks (characters : List Char)
  /-- A first break, which an escaped one leaves out, and the breaks after it. -/
  | breaks (first : Option Char) (more : List Char)

namespace Gap

/-- Nothing at all. -/
def empty : Gap := .blanks []

/-- The gap goes past a line's end. -/
def crossesLine : Gap → Bool
  | .blanks _ => false
  | .breaks .. => true

/-- What a gap stands for. -/
def folded : Gap → List Char
  | .blanks characters => characters
  | .breaks (some '\n') [] => [' ']
  | .breaks (some '\n') more => more
  | .breaks first more => first.toList ++ more

/-- The gap at a place, after the part of it that has been read. A tab before the column `least`
of a later line is refused. -/
def read? (least : Nat) : Nat → Gap → Cursor → Option (Gap × Cursor)
  | 0, _, _ => none
  | fuel + 1, gap, cursor =>
    match cursor.rest.head? with
    | none => some (gap, cursor)
    | some c =>
      if isSpace c then
        match gap with
        | .blanks characters => read? least fuel (.blanks (characters ++ [c])) (cursor.skip 1)
        | .breaks .. =>
          if c = '\t' ∧ cursor.column < least then none else read? least fuel gap (cursor.skip 1)
      else if isBreak c then
        match gap with
        | .blanks _ => read? least fuel (.breaks (some c) []) cursor.skipBreak
        | .breaks first more => read? least fuel (.breaks first (more ++ [c])) cursor.skipBreak
      else some (gap, cursor)

end Gap

/-- Brackets, braces and commas, which end a plain scalar in a flow collection. -/
def isFlowMark (c : Char) : Bool :=
  c == ',' || c == '[' || c == ']' || c == '\x7b' || c == '\x7d'

/-- The part of a plain scalar that comes next. In a flow collection a colon may not stand before a
bracket, a brace, a comma or a question mark. -/
def plainPart? (inFlow : Bool) : List Char → Option (List Char)
  | [] => some []
  | c :: rest =>
    if isGap c then some []
    else if inFlow && c == ':' && rest.head?.any (fun next => isFlowMark next || next == '?') then
      none
    else if (c == ':' && endsOr isGap rest) || (inFlow && isFlowMark c) then some []
    else (plainPart? inFlow rest).map (c :: ·)

/-- A scalar's text, the place after it, and whether it reached over a line's end. -/
structure ScalarText where
  text : List Char
  after : Cursor
  crossedLine : Bool := false

/-- A plain scalar in a block that is indented by `indent`, or in a flow collection. -/
def plainScalar? (inFlow : Bool) (indent : Nat) :
    Nat → List Char → Gap → Cursor → Option ScalarText
  | 0, _, _, _ => none
  | fuel + 1, text, gap, cursor => do
    if cursor.atDocumentMarker || cursor.rest.head? == some '#' then
      return ⟨text, cursor, gap.crossesLine⟩
    let part ← plainPart? inFlow cursor.rest
    let text := if part.isEmpty then text else text ++ gap.folded ++ part
    let gap := if part.isEmpty then gap else .empty
    let cursor := cursor.skip part.length
    if cursor.rest.head?.any isGap then
      let (gap, cursor) ← Gap.read? indent (cursor.rest.length + 1) gap cursor
      if !inFlow && cursor.column < indent then return ⟨text, cursor, gap.crossesLine⟩
      else plainScalar? inFlow indent fuel text gap cursor
    else return ⟨text, cursor, gap.crossesLine⟩

/-- The character of an escape, and how many hexadecimal digits give a character by number. -/
def escape? : Char → Option (Char ⊕ Nat)
  | '0' => some (.inl '\x00')
  | 'a' => some (.inl '\x07')
  | 'b' => some (.inl '\x08')
  | 't' => some (.inl '\t')
  | '\t' => some (.inl '\t')
  | 'n' => some (.inl '\n')
  | 'v' => some (.inl '\x0b')
  | 'f' => some (.inl '\x0c')
  | 'r' => some (.inl '\r')
  | 'e' => some (.inl '\x1b')
  | ' ' => some (.inl ' ')
  | '"' => some (.inl '"')
  | '/' => some (.inl '/')
  | '\\' => some (.inl '\\')
  | 'N' => some (.inl '\u0085')
  | '_' => some (.inl '\u00a0')
  | 'L' => some (.inl '\u2028')
  | 'P' => some (.inl '\u2029')
  | 'x' => some (.inr 2)
  | 'u' => some (.inr 4)
  | 'U' => some (.inr 8)
  | _ => none

/-- The character with a number, unless the number is none of a character. -/
def charOf? (point : Nat) : Option Char :=
  if point < 0xD800 ∨ (0xDFFF < point ∧ point ≤ 0x10FFFF) then some (Char.ofNat point) else none

/-- The value of hexadecimal digits. -/
def hexValue? (digits : List Char) : Option Nat :=
  digits.foldl (fun value c => do return (← value) * 16 + (← Json.hexDigit? c)) (some 0)

/-- What stands after a backslash: a character, and how many characters give it. -/
def escaped? : List Char → Option (Char × Nat)
  | [] => none
  | c :: rest => do
    match ← escape? c with
    | .inl found => return (found, 1)
    | .inr width =>
      let digits := rest.take width
      if digits.length < width then none
      else return (← charOf? (← hexValue? digits), width + 1)

/-- The part of a quoted scalar that comes next, with its length in characters. The last part of
the result tells that an escaped line break follows. -/
def quotedPart? (single : Bool) : Nat → Nat → List Char → List Char →
    Option (List Char × Nat × Bool)
  | 0, _, _, _ => none
  | fuel + 1, length, found, rest =>
    match rest with
    | [] => some (found.reverse, length, false)
    | c :: rest =>
      if isGap c then some (found.reverse, length, false)
      else if single && c == '\'' then
        if rest.head? = some '\'' then
          quotedPart? single fuel (length + 2) ('\'' :: found) (rest.drop 1)
        else some (found.reverse, length, false)
      else if !single && c == '"' then some (found.reverse, length, false)
      else if !single && c == '\\' then
        if rest.head?.any isBreak then some (found.reverse, length + 1, true)
        else
          match escaped? rest with
          | none => none
          | some (character, width) =>
            quotedPart? single fuel (length + 1 + width) (character :: found) (rest.drop width)
      else quotedPart? single fuel (length + 1) (c :: found) rest

/-- A quoted scalar after its opening quote. -/
def quotedScalar? (single : Bool) : Nat → List Char → Cursor → Option ScalarText
  | 0, _, _ => none
  | fuel + 1, text, cursor => do
    if cursor.atDocumentMarker || cursor.rest.isEmpty then none
    else
      let (part, length, escapedBreak) ←
        quotedPart? single (cursor.rest.length + 1) 0 [] cursor.rest
      let text := text ++ part
      let cursor := cursor.skip length
      let cursor := if escapedBreak then cursor.skipBreak else cursor
      if cursor.rest.head? = some (if single then '\'' else '"') then
        return ⟨text, cursor.skip 1, false⟩
      else
        let gap : Gap := if escapedBreak then .breaks none [] else .empty
        let (gap, cursor) ← Gap.read? 0 (cursor.rest.length + 1) gap cursor
        quotedScalar? single fuel (text ++ gap.folded) cursor

/-- What becomes of the breaks at the end of a block scalar. -/
inductive Chomping where
  | strip
  | clip
  | keep

/-- The header of a block scalar: its indentation, if it is given, and its chomping. -/
structure BlockHeader where
  increment : Option Nat := none
  chomping : Chomping := .clip

/-- The chomping that a sign stands for. -/
def chomping? : Char → Option Chomping
  | '-' => some .strip
  | '+' => some .keep
  | _ => none

/-- A block scalar's header, with the number of its characters. An indentation of zero is
refused. -/
def blockHeader? (rest : List Char) : Option (BlockHeader × Nat) :=
  let increment? (c : Char) : Option Nat := if c.isDigit then some (c.toNat - '0'.toNat) else none
  let checked (header : BlockHeader) (length : Nat) : Option (BlockHeader × Nat) :=
    if header.increment = some 0 then none else some (header, length)
  match rest.head?.bind chomping?, rest.head?.bind increment? with
  | some chomping, _ =>
    match (rest.drop 1).head?.bind increment? with
    | some increment => checked ⟨some increment, chomping⟩ 2
    | none => some (⟨none, chomping⟩, 1)
  | none, some increment =>
    match (rest.drop 1).head?.bind chomping? with
    | some chomping => checked ⟨some increment, chomping⟩ 2
    | none => checked ⟨some increment, .clip⟩ 1
  | none, none => some ({}, 0)

/-- The breaks before a line of a block scalar, the place after them and after the indentation, and
the widest indentation among the empty lines. Without an indentation every blank is skipped. -/
def blockBreaks? (indent : Option Nat) : Nat → List Char → Nat → Cursor →
    Option (List Char × Nat × Cursor)
  | 0, _, _, _ => none
  | fuel + 1, breaks, widest, cursor =>
    let blanks := (cursor.rest.takeWhile (· == ' ')).length
    let cursor := cursor.skip
      (match indent with
        | none => blanks
        | some indent => min blanks (indent - cursor.column))
    let widest := max widest cursor.column
    match cursor.rest.head? with
    | some c =>
      if c = '\t' ∧ indent.all (cursor.column < ·) then none
      else if isBreak c then
        blockBreaks? indent fuel (breaks ++ [c]) widest cursor.skipBreak
      else some (breaks, widest, cursor)
    | none => some (breaks, widest, cursor)

/-- The lines of a block scalar. `pending` is the break after the last line, and `breaks` are those
after it. Without the scalar's own marks a break between two lines that do not begin with a blank is
folded, unless the scalar is literal. -/
def blockLines? (literal : Bool) (chomping : Chomping) (indent : Nat) :
    Nat → List Char → List Char → List Char → Bool → Cursor → Option ScalarText
  | 0, _, _, _, _, _ => none
  | fuel + 1, text, pending, breaks, afterBlank, cursor =>
    if cursor.column == indent && !cursor.rest.isEmpty then do
      let startsBlank := cursor.rest.head?.any isSpace
      let between :=
        if !literal && pending == ['\n'] && !afterBlank && !startsBlank then
          if breaks.isEmpty then [' '] else breaks
        else pending ++ breaks
      let (line, cursor) := cursor.span fun c => !isBreak c
      let pending := cursor.rest.take 1
      let cursor := if cursor.rest.isEmpty then cursor else cursor.skipBreak
      let (breaks, _, cursor) ← blockBreaks? (some indent) (cursor.rest.length + 1) [] 0 cursor
      blockLines? literal chomping indent fuel (text ++ between ++ line) pending breaks
        startsBlank cursor
    else
      let tail := match chomping with
        | .strip => []
        | .clip => pending
        | .keep => pending ++ breaks
      some ⟨text ++ tail, cursor, true⟩

/-- A block scalar after its mark, inside a block of an indentation; the outermost block has
none. -/
def blockScalar? (literal : Bool) (outer : Option Nat) (cursor : Cursor) : Option ScalarText := do
  let (header, length) ← blockHeader? cursor.rest
  let cursor := (cursor.skip length).skipSpaces.skipComment
  if !endsOr isBreak cursor.rest then none
  else
    let cursor := if cursor.rest.isEmpty then cursor else cursor.skipBreak
    let fuel := cursor.rest.length + 1
    let given := header.increment.map (outer.getD 0 + ·)
    let (breaks, widest, cursor) ← blockBreaks? given fuel [] 0 cursor
    let least := match outer with
      | some outer => outer + 1
      | none => 1
    let indent := given.getD (max widest least)
    blockLines? literal header.chomping indent fuel [] [] breaks false cursor

end ReleaseFinder.Yaml
