import ReleaseFinder.Yaml.Scalar

/-!
# Tags, anchors and directives of YAML

How tags, anchors, aliases and directives are written. A tag is a handle and a suffix; the handle
stands for the beginning of the tag that a directive gives it. A tag between angle brackets has an
empty handle and is meant as it stands. Tags are bytes, because escapes may spell bytes that make no
text.
-/

namespace ReleaseFinder.Yaml

/-- The bytes of a tag. A tag may be written with escapes for bytes that are no text. -/
abbrev TagBytes := List UInt8

/-- A text as bytes. -/
def TagBytes.ofText (text : String) : TagBytes :=
  text.toUTF8.data.toList

/-- The text that bytes spell, if they spell one. -/
def TagBytes.text? (bytes : TagBytes) : Option String :=
  String.fromUTF8? ⟨bytes.toArray⟩

/-- A zero byte ends a tag, whatever is written behind it. -/
def TagBytes.upToZero (bytes : TagBytes) : TagBytes :=
  bytes.takeWhile (· != 0)

/-- A tag as it is written. -/
structure TagName where
  handle : String
  suffix : TagBytes

/-- A byte that is written as a percent sign and two hexadecimal digits. -/
def escapedByte? : List Char → Option (Nat × List Char)
  | '%' :: high :: low :: rest => do
    return ((← Json.hexDigit? high) * 16 + (← Json.hexDigit? low), rest)
  | _ => none

/-- So many further escaped bytes of a character. They carry six bits each, behind the same mark. -/
def escapedTail? : Nat → List Char → Option (TagBytes × List Char)
  | 0, rest => some ([], rest)
  | count + 1, rest => do
    let (byte, rest) ← escapedByte? rest
    if byte / 64 = 2 then
      let (bytes, rest) ← escapedTail? count rest
      return (byte.toUInt8 :: bytes, rest)
    else none

/-- The bytes of a character that is written with escapes. The first byte says how many there are;
which character they spell is not looked at. -/
def escapedChar? (rest : List Char) : Option (TagBytes × List Char) := do
  let (byte, rest) ← escapedByte? rest
  let more ←
    if byte < 0x80 then some 0
    else if byte / 32 = 6 then some 1
    else if byte / 16 = 14 then some 2
    else if byte / 8 = 30 then some 3
    else none
  let (bytes, rest) ← escapedTail? more rest
  return (byte.toUInt8 :: bytes, rest)

/-- The characters of tags besides those of names. -/
def isTagMark (verbatim : Bool) (c : Char) : Bool :=
  [';', '/', '?', ':', '@', '&', '=', '+', '$', '.', '%', '!', '~', '*', '\'', '(',
    ')'].contains c || (verbatim && (c == ',' || c == '[' || c == ']'))

/-- The characters of a tag that come next, as bytes. -/
def tagBytes? (verbatim : Bool) : Nat → List Char → Option (TagBytes × List Char)
  | 0, _ => none
  | fuel + 1, rest =>
    match rest with
    | [] => some ([], [])
    | c :: after =>
      if isNameChar c || isTagMark verbatim c then do
        let (bytes, after) ← if c = '%' then escapedChar? rest else some ([c.toUInt8], after)
        let (more, rest) ← tagBytes? verbatim fuel after
        return (bytes ++ more, rest)
      else some ([], rest)

/-- One or more characters of a tag, as bytes. -/
def tagText? (verbatim : Bool) (rest : List Char) : Option (TagBytes × List Char) := do
  let (bytes, rest) ← tagBytes? verbatim (rest.length + 1) rest
  if bytes.isEmpty then none else return (bytes.upToZero, rest)

/-- What begins with an exclamation mark: the name after it, and whether a second mark follows. -/
def handleText (rest : List Char) : List Char × Bool × List Char :=
  let name := rest.takeWhile isNameChar
  match rest.dropWhile isNameChar with
  | '!' :: rest => (name, true, rest)
  | rest => (name, false, rest)

/-- A tag after its exclamation mark. A tag without a handle of its own has the handle `!`, and a
mark with nothing behind it is meant as it stands. -/
def tagName? : List Char → Option (TagName × List Char)
  | '<' :: rest => do
    match ← tagText? true rest with
    | (suffix, '>' :: rest) => return (⟨"", suffix⟩, rest)
    | _ => none
  | rest => do
    match handleText rest with
    | (name, true, rest) =>
      let (suffix, rest) ← tagText? false rest
      return (⟨"!" ++ String.ofList name ++ "!", suffix⟩, rest)
    | (name, false, rest) =>
      let (more, rest) ← tagBytes? false (rest.length + 1) rest
      let suffix := TagBytes.upToZero (name.map Char.toUInt8 ++ more)
      return (if suffix.isEmpty then ⟨"", .ofText "!"⟩ else ⟨"!", suffix⟩, rest)

/-- A tag at its exclamation mark, with the place after it. In a flow collection a comma may follow
at once. -/
def tag? (inFlow : Bool) (cursor : Cursor) : Option (TagName × Cursor) := do
  let (name, rest) ← tagName? (cursor.rest.drop 1)
  let ends := endsOr isGap rest || (inFlow && rest.head? == some ',')
  if ends then return (name, cursor.skip (cursor.rest.length - rest.length)) else none

/-- The name of an anchor or an alias after its mark, with the place after it. -/
def anchorName? (cursor : Cursor) : Option (String × Cursor) :=
  let (name, after) := (cursor.skip 1).span isNameChar
  let ends := endsOr
    (fun c => isGap c || ['?', ':', ',', ']', '\x7d', '%', '@', '\x60'].contains c) after.rest
  if name.isEmpty || !ends then none else some (String.ofList name, after)

/-- A directive. -/
inductive Directive where
  | version (major minor : Nat)
  | tagHandle (handle : String) (start : TagBytes)

/-- A number of at most nine digits. -/
def versionNumber? (rest : List Char) : Option (Nat × List Char) :=
  let digits := rest.takeWhile Char.isDigit
  if digits.isEmpty || 9 < digits.length then none
  else some (Decimal.digitsValue 0 digits, rest.dropWhile Char.isDigit)

/-- What follows the name of a version directive. -/
def versionDirective? (rest : List Char) : Option (Directive × List Char) := do
  let (major, rest) ← versionNumber? (rest.dropWhile isSpace)
  match rest with
  | '.' :: rest =>
    let (minor, rest) ← versionNumber? rest
    return (.version major minor, rest)
  | _ => none

/-- What follows the name of a directive for tags: a handle, blanks, and what it stands for. -/
def tagDirective? (rest : List Char) : Option (Directive × List Char) :=
  match rest.dropWhile isSpace with
  | '!' :: rest => do
    let (name, closed, rest) := handleText rest
    let handle := "!" ++ String.ofList name ++ if closed then "!" else ""
    if !closed && !name.isEmpty || !rest.head?.any isSpace then none
    else
      let (start, rest) ← tagText? true (rest.dropWhile isSpace)
      if endsOr isGap rest then return (.tagHandle handle start, rest) else none
  | _ => none

/-- A directive at its percent sign, with the place at the end of its line. -/
def directive? (cursor : Cursor) : Option (Directive × Cursor) := do
  let (name, after) := (cursor.skip 1).span isNameChar
  if !endsOr isGap after.rest then none
  else
    let (directive, rest) ←
      match String.ofList name with
      | "YAML" => versionDirective? after.rest
      | "TAG" => tagDirective? after.rest
      | _ => none
    let cursor := (after.skip (after.rest.length - rest.length)).skipSpaces.skipComment
    if endsOr isBreak cursor.rest then
      return (directive, if cursor.rest.isEmpty then cursor else cursor.skipBreak)
    else none

end ReleaseFinder.Yaml
