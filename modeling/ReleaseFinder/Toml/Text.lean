import ReleaseFinder.Json.Reader

/-!
# Texts of TOML

Blanks, comments, quoted texts and keys. A text is quoted with one or three quotes; between double
quotes escapes are read, between single quotes everything stands for itself.
-/

namespace ReleaseFinder.Toml

/-- A blank within a line. -/
def isSpace (c : Char) : Bool :=
  c == ' ' || c == '\t'

/-- A character of a line: no control character but the tab. -/
def isLineChar (c : Char) : Bool :=
  c == '\t' || (0x20 ≤ c.toNat && c.toNat != 0x7F)

/-- The text after the blanks at its start. -/
def skipSpaces (text : List Char) : List Char :=
  text.dropWhile isSpace

/-- The text after a line break. -/
def afterBreak? : List Char → Option (List Char)
  | '\n' :: rest => some rest
  | '\r' :: '\n' :: rest => some rest
  | _ => none

/-- The text after a comment, if one begins here. -/
def skipComment : List Char → List Char
  | '#' :: rest => rest.dropWhile isLineChar
  | rest => rest

/-- The text after the end of a line: blanks, perhaps a comment, and a break or the end. -/
def afterLine? (text : List Char) : Option (List Char) :=
  match skipComment (skipSpaces text) with
  | [] => some []
  | rest => afterBreak? rest

/-- The text after blanks, comments and line breaks. -/
def skipLines? : Nat → List Char → Option (List Char)
  | 0, _ => none
  | fuel + 1, text =>
    match skipSpaces text with
    | '#' :: rest => do skipLines? fuel (← afterBreak? (rest.dropWhile isLineChar))
    | '\n' :: rest => skipLines? fuel rest
    | '\r' :: rest => do skipLines? fuel (← afterBreak? ('\r' :: rest))
    | rest => some rest

/-- The character with a number of some hexadecimal digits. -/
def numberedChar? (width : Nat) (text : List Char) : Option (Char × List Char) := do
  let digits := text.take width
  if digits.length < width then none
  else
    let point ← digits.foldl
      (fun value c => do return (← value) * 16 + (← Json.hexDigit? c)) (some 0)
    if point < 0xD800 ∨ (0xDFFF < point ∧ point ≤ 0x10FFFF) then
      return (Char.ofNat point, text.drop width)
    else none

/-- The character that an escape stands for, after its backslash. -/
def escaped? : List Char → Option (Char × List Char)
  | 'b' :: rest => some ('\x08', rest)
  | 't' :: rest => some ('\t', rest)
  | 'n' :: rest => some ('\n', rest)
  | 'f' :: rest => some ('\x0c', rest)
  | 'r' :: rest => some ('\r', rest)
  | '"' :: rest => some ('"', rest)
  | '\\' :: rest => some ('\\', rest)
  | 'u' :: rest => numberedChar? 4 rest
  | 'U' :: rest => numberedChar? 8 rest
  | _ => none

/-- A text of one line after its opening quote. -/
def lineText? (quote : Char) : Nat → List Char → List Char → Option (String × List Char)
  | 0, _, _ => none
  | _ + 1, _, [] => none
  | fuel + 1, found, c :: rest =>
    if c = quote then some (String.ofList found.reverse, rest)
    else if c = '\\' ∧ quote = '"' then
      match escaped? rest with
      | none => none
      | some (character, rest) => lineText? quote fuel (character :: found) rest
    else if isLineChar c then lineText? quote fuel (c :: found) rest
    else none

/-- The text after blanks and line breaks. -/
def skipBlankLines (text : List Char) : List Char :=
  text.dropWhile fun c => isSpace c || c == '\n' || c == '\r'

/-- Every carriage return in the blanks at the start is part of a line break. -/
def breaksWhole : List Char → Bool
  | '\r' :: '\n' :: rest => breaksWhole rest
  | '\r' :: _ => false
  | c :: rest => if isSpace c || c == '\n' then breaksWhole rest else true
  | [] => true

/-- A text of several lines after its opening quotes. Up to two quotes may stand before the closing
ones. -/
def linesText? (quote : Char) : Nat → List Char → List Char → Option (String × List Char)
  | 0, _, _ => none
  | _ + 1, _, [] => none
  | fuel + 1, found, c :: rest =>
    if c = quote then
      let run := (c :: rest).takeWhile (· == quote)
      if run.length < 3 then
        linesText? quote fuel (run ++ found) ((c :: rest).drop run.length)
      else
        let kept := min (run.length - 3) 2
        some (String.ofList (List.replicate kept quote ++ found).reverse,
          (c :: rest).drop (kept + 3))
    else if c = '\\' ∧ quote = '"' then
      match afterBreak? (skipSpaces rest) with
      | some more =>
        if breaksWhole more then linesText? quote fuel found (skipBlankLines more) else none
      | none =>
        match escaped? rest with
        | none => none
        | some (character, rest) => linesText? quote fuel (character :: found) rest
    else
      match afterBreak? (c :: rest) with
      | some rest => linesText? quote fuel ('\n' :: found) rest
      | none => if isLineChar c then linesText? quote fuel (c :: found) rest else none

/-- A text at its opening quote. A line break right after three quotes does not count. -/
def text? (text : List Char) : Option (String × List Char) :=
  let lines (quote : Char) (rest : List Char) : Option (String × List Char) :=
    linesText? quote (rest.length + 1) [] ((afterBreak? rest).getD rest)
  match text with
  | '"' :: '"' :: '"' :: rest => lines '"' rest
  | '\'' :: '\'' :: '\'' :: rest => lines '\'' rest
  | '"' :: rest => lineText? '"' (rest.length + 1) [] rest
  | '\'' :: rest => lineText? '\'' (rest.length + 1) [] rest
  | _ => none

/-- A character of a key without quotes. -/
def isKeyChar (c : Char) : Bool :=
  c.isAlphanum || c == '-' || c == '_'

/-- A single key. -/
def simpleKey? (text : List Char) : Option (String × List Char) :=
  match text with
  | '"' :: rest => lineText? '"' (rest.length + 1) [] rest
  | '\'' :: rest => lineText? '\'' (rest.length + 1) [] rest
  | _ =>
    let name := text.takeWhile isKeyChar
    if name.isEmpty then none else some (String.ofList name, text.dropWhile isKeyChar)

/-- How deep values may be nested, and how many parts a key may have. -/
def depthLimit : Nat := 80

/-- The parts of a key, separated by points. -/
def keyParts? : Nat → List Char → Option (List String × List Char)
  | 0, _ => none
  | fuel + 1, text => do
    let (name, rest) ← simpleKey? (skipSpaces text)
    match skipSpaces rest with
    | '.' :: rest =>
      let (more, rest) ← keyParts? fuel rest
      return (name :: more, rest)
    | rest => return ([name], rest)

/-- A key. -/
def key? (text : List Char) : Option (List String × List Char) :=
  keyParts? (depthLimit - 1) text

end ReleaseFinder.Toml
