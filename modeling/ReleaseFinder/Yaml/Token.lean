import ReleaseFinder.Yaml.Tag

/-!
# Tokens of YAML

The marks and scalars of a text, with the beginnings and ends of blocks that its indentation
implies. A key is recognised by the colon after it: where a key may begin, its place is kept, and
the colon puts a key token, and perhaps the beginning of a block, in front of it.
-/

namespace ReleaseFinder.Yaml

/-- A token. -/
inductive Token where
  | directive (directive : Directive)
  | documentStart
  | documentEnd
  | blockSequenceStart
  | blockMappingStart
  | blockEnd
  | flowSequenceStart
  | flowSequenceEnd
  | flowMappingStart
  | flowMappingEnd
  | blockEntry
  | flowEntry
  | key
  | value
  | alias (name : String)
  | anchor (name : String)
  | tag (name : TagName)
  | scalar (plain : Bool) (text : String)
  | streamEnd

/-- A place where a key may have begun. -/
structure KeyStart where
  /-- Nothing but a key can stand there. -/
  required : Bool
  /-- The number of tokens before it. -/
  position : Nat
  line : Nat
  column : Nat
  offset : Nat

/-- A key must end within so many bytes. -/
def longestKey : Nat := 1024

/-- A text that has been read up to a place. -/
structure TokenReader where
  cursor : Cursor
  /-- The columns of the blocks around the place, the innermost first. -/
  indents : List Nat := []
  /-- Where a key may have begun, for the innermost flow collection first and the block last. -/
  keyStarts : List (Option KeyStart) := [none]
  /-- A key may begin here. -/
  keyAllowed : Bool := true
  /-- The tokens so far, the latest first. -/
  tokens : List Token := []

namespace TokenReader

/-- The place lies within a flow collection. -/
def inFlow (reader : TokenReader) : Bool :=
  1 < reader.keyStarts.length

/-- The least column of what belongs to the innermost block. -/
def leastColumn (reader : TokenReader) : Nat :=
  match reader.indents with
  | [] => 0
  | indent :: _ => indent + 1

/-- The reader with another token. -/
def push (reader : TokenReader) (token : Token) : TokenReader :=
  { reader with tokens := token :: reader.tokens }

/-- The reader with tokens put after the first `position` ones. -/
def pushAt (reader : TokenReader) (position : Nat) (added : List Token) : TokenReader :=
  let later := reader.tokens.length - position
  { reader with
    tokens := reader.tokens.take later ++ added.reverse ++ reader.tokens.drop later }

/-- The blocks that reach further to the right than a column end. -/
def closeBlocks (column : Nat) : List Nat → List Token → List Nat × List Token
  | [], tokens => ([], tokens)
  | indent :: outer, tokens =>
    if column < indent then closeBlocks column outer (.blockEnd :: tokens)
    else (indent :: outer, tokens)

/-- The reader after the blocks further to the right have ended. -/
def unindent (reader : TokenReader) (column : Nat) : TokenReader :=
  if reader.inFlow then reader
  else
    let (indents, tokens) := closeBlocks column reader.indents reader.tokens
    { reader with indents, tokens }

/-- The reader after every block has ended. -/
def unindentAll (reader : TokenReader) : TokenReader :=
  if reader.inFlow then reader
  else
    { reader with
      indents := []
      tokens := reader.indents.map (fun _ => Token.blockEnd) ++ reader.tokens }

/-- A block begins at a column further to the right than the innermost one. -/
def indentsAt (reader : TokenReader) (column : Nat) : Bool :=
  !reader.inFlow && decide (reader.leastColumn ≤ column)

/-- The reader with a block begun at the present place, if that lies far enough to the right. -/
def indent (reader : TokenReader) (start : Token) : TokenReader :=
  if reader.indentsAt reader.cursor.column then
    { reader with indents := reader.cursor.column :: reader.indents }.push start
  else reader

/-- The key that may have begun is none, unless nothing else could stand there. -/
def dropKey? (reader : TokenReader) : Option TokenReader :=
  match reader.keyStarts with
  | some start :: outer =>
    if start.required then none else some { reader with keyStarts := none :: outer }
  | _ => some reader

/-- A key may begin at the present place. -/
def saveKey? (reader : TokenReader) : Option TokenReader :=
  if reader.keyAllowed then do
    let cursor := reader.cursor
    let start : KeyStart :=
      { required := !reader.inFlow && reader.indents.head? == some cursor.column
        position := reader.tokens.length
        line := cursor.line
        column := cursor.column
        offset := cursor.offset }
    let reader ← reader.dropKey?
    return { reader with keyStarts := some start :: reader.keyStarts.drop 1 }
  else some reader

/-- A key that begins on an earlier line or too far back is none. -/
def expireKeys? (reader : TokenReader) : Option TokenReader := do
  let expired (start : KeyStart) : Bool :=
    decide (start.line < reader.cursor.line) ||
      decide (start.offset + longestKey < reader.cursor.offset)
  let keyStarts ← reader.keyStarts.mapM fun
    | some start =>
      if !expired start then some (some start) else if start.required then none else some none
    | none => some none
  return { reader with keyStarts }

/-- The place of the next token: blanks, comments and line breaks are passed over, and so is a mark
of the byte order at the start of a line, which takes up a column. Tabs count as blanks where no key
may begin. A key may begin on every new line of a block. -/
def skipToToken (reader : TokenReader) : Nat → TokenReader
  | 0 => reader
  | fuel + 1 =>
    let cursor := reader.cursor
    let cursor :=
      if cursor.column = 0 ∧ cursor.rest.head? = some '\ufeff' then cursor.skip 1 else cursor
    let tabs := reader.inFlow || !reader.keyAllowed
    let cursor := (cursor.span fun c => c == ' ' || (tabs && c == '\t')).2.skipComment
    if cursor.rest.head?.any isBreak then
      skipToToken
        { reader with
          cursor := cursor.skipBreak
          keyAllowed := reader.keyAllowed || !reader.inFlow } fuel
    else { reader with cursor }

/-- The reader after a mark of some characters. -/
def mark (reader : TokenReader) (length : Nat) (token : Token) : TokenReader :=
  { reader with cursor := reader.cursor.skip length }.push token

/-- The reader after a directive. -/
def readDirective? (reader : TokenReader) : Option TokenReader := do
  let reader ← reader.unindentAll.dropKey?
  let (directive, cursor) ← directive? reader.cursor
  return { reader with cursor, keyAllowed := false }.push (.directive directive)

/-- The reader after the beginning or the end of a document. -/
def readDocumentMarker? (reader : TokenReader) (token : Token) : Option TokenReader := do
  let reader ← reader.unindentAll.dropKey?
  return { reader with keyAllowed := false }.mark 3 token

/-- The reader after an opening bracket. -/
def openFlow? (reader : TokenReader) (token : Token) : Option TokenReader := do
  let reader ← reader.saveKey?
  return { reader with keyStarts := none :: reader.keyStarts, keyAllowed := true }.mark 1 token

/-- The reader after a closing bracket. -/
def closeFlow? (reader : TokenReader) (token : Token) : Option TokenReader := do
  let reader ← reader.dropKey?
  let keyStarts := if reader.inFlow then reader.keyStarts.drop 1 else reader.keyStarts
  return { reader with keyStarts, keyAllowed := false }.mark 1 token

/-- The reader after a comma. -/
def readFlowEntry? (reader : TokenReader) : Option TokenReader := do
  let reader ← reader.dropKey?
  return { reader with keyAllowed := true }.mark 1 .flowEntry

/-- The reader after the dash of a list's item. -/
def readBlockEntry? (reader : TokenReader) : Option TokenReader := do
  if !reader.inFlow && !reader.keyAllowed then none
  else
    let reader ← (reader.indent .blockSequenceStart).dropKey?
    return { reader with keyAllowed := true }.mark 1 .blockEntry

/-- The reader after the question mark of a key. -/
def readKey? (reader : TokenReader) : Option TokenReader := do
  if !reader.inFlow && !reader.keyAllowed then none
  else
    let reader ← (reader.indent .blockMappingStart).dropKey?
    return { reader with keyAllowed := !reader.inFlow }.mark 1 .key

/-- The reader after the colon of a value. -/
def readValue? (reader : TokenReader) : Option TokenReader :=
  match reader.keyStarts with
  | some start :: outer =>
    let begins := reader.indentsAt start.column
    let reader := { reader with
      keyStarts := none :: outer
      keyAllowed := false
      indents := if begins then start.column :: reader.indents else reader.indents }
    let reader := reader.pushAt start.position
      (if begins then [.blockMappingStart, .key] else [.key])
    some (reader.mark 1 .value)
  | _ =>
    if !reader.inFlow && !reader.keyAllowed then none
    else
      let reader := reader.indent .blockMappingStart
      some ({ reader with keyAllowed := !reader.inFlow }.mark 1 .value)

/-- The reader after an anchor or an alias. -/
def readAnchor? (reader : TokenReader) (token : String → Token) : Option TokenReader := do
  let reader ← reader.saveKey?
  let (name, cursor) ← anchorName? reader.cursor
  return { reader with cursor, keyAllowed := false }.push (token name)

/-- The reader after a tag. -/
def readTag? (reader : TokenReader) : Option TokenReader := do
  let reader ← reader.saveKey?
  let (name, cursor) ← tag? reader.inFlow reader.cursor
  return { reader with cursor, keyAllowed := false }.push (.tag name)

/-- The reader after a block scalar. -/
def readBlockScalar? (reader : TokenReader) (literal : Bool) : Option TokenReader := do
  let reader ← reader.dropKey?
  let scalar ← blockScalar? literal reader.indents.head? (reader.cursor.skip 1)
  return { reader with cursor := scalar.after, keyAllowed := true }.push
    (.scalar false (String.ofList scalar.text))

/-- The reader after a quoted scalar. -/
def readQuoted? (reader : TokenReader) (single : Bool) : Option TokenReader := do
  let reader ← reader.saveKey?
  let scalar ← quotedScalar? single (reader.cursor.rest.length + 2) [] (reader.cursor.skip 1)
  return { reader with cursor := scalar.after, keyAllowed := false }.push
    (.scalar false (String.ofList scalar.text))

/-- The reader after a plain scalar. -/
def readPlain? (reader : TokenReader) : Option TokenReader := do
  let reader ← reader.saveKey?
  let scalar ← plainScalar? reader.inFlow reader.leastColumn (reader.cursor.rest.length + 2) []
    .empty reader.cursor
  return { reader with cursor := scalar.after, keyAllowed := scalar.crossedLine }.push
    (.scalar true (String.ofList scalar.text))

/-- The characters with a meaning of their own at the beginning of a token. -/
def indicators : List Char :=
  ['-', '?', ':', ',', '[', ']', '\x7b', '\x7d', '#', '&', '*', '!', '|', '>', '\'', '"', '%', '@',
    '\x60']

/-- A plain scalar may begin with a character. -/
def beginsPlain (inFlow : Bool) (c : Char) (rest : List Char) : Bool :=
  !(isGap c || indicators.contains c) || (c == '-' && !rest.head?.any isSpace) ||
    (!inFlow && (c == '?' || c == ':') && !endsOr isGap rest)

/-- The reader after the token that begins with a character. -/
def readToken? (reader : TokenReader) (c : Char) (rest : List Char) : Option TokenReader :=
  let ends := endsOr isGap rest
  if c = '%' ∧ reader.cursor.column = 0 then reader.readDirective?
  else if reader.cursor.atMarker '-' then reader.readDocumentMarker? .documentStart
  else if reader.cursor.atMarker '.' then reader.readDocumentMarker? .documentEnd
  else if c = '[' then reader.openFlow? .flowSequenceStart
  else if c = '\x7b' then reader.openFlow? .flowMappingStart
  else if c = ']' then reader.closeFlow? .flowSequenceEnd
  else if c = '\x7d' then reader.closeFlow? .flowMappingEnd
  else if c = ',' then reader.readFlowEntry?
  else if c = '-' ∧ ends then reader.readBlockEntry?
  else if c = '?' ∧ (reader.inFlow || ends) then reader.readKey?
  else if c = ':' ∧ (reader.inFlow || ends) then reader.readValue?
  else if c = '*' then reader.readAnchor? .alias
  else if c = '&' then reader.readAnchor? .anchor
  else if c = '!' then reader.readTag?
  else if c = '|' ∧ !reader.inFlow then reader.readBlockScalar? true
  else if c = '>' ∧ !reader.inFlow then reader.readBlockScalar? false
  else if c = '\'' then reader.readQuoted? true
  else if c = '"' then reader.readQuoted? false
  else if beginsPlain reader.inFlow c rest then reader.readPlain?
  else none

/-- The reader after the end of the text. -/
def finish? (reader : TokenReader) : Option TokenReader := do
  return (← reader.unindentAll.dropKey?).push .streamEnd

/-- All tokens from a place on. -/
def readAll? : Nat → TokenReader → Option (List Token)
  | 0, _ => none
  | fuel + 1, reader => do
    let reader ← (reader.skipToToken (reader.cursor.rest.length + 1)).expireKeys?
    let reader := reader.unindent reader.cursor.column
    match reader.cursor.rest with
    | [] => return (← reader.finish?).tokens.reverse
    | c :: rest => readAll? fuel (← reader.readToken? c rest)

end TokenReader

/-- The tokens of a text. -/
def tokens? (text : List Char) : Option (List Token) :=
  if text.all isAllowed then
    TokenReader.readAll? (text.length + 2) { cursor := { rest := oneBreak text } }
  else none

end ReleaseFinder.Yaml
