import ReleaseFinder.Decimal.Numeral
import ReleaseFinder.Dictionary
import ReleaseFinder.Text.Blank
import ReleaseFinder.Text.LowerCase
import ReleaseFinder.Toml.Text
import ReleaseFinder.Tree

/-!
# Settings from the environment

A variable overrides the setting that its name spells out: after the prefix, two underscores or a
point go from a section to a setting in it. The value is a truth value, a number, a list, a record
or a quoted text if it reads as one, and otherwise the text itself. The variables make up one
record, which is laid over the settings as a whole.
-/

namespace ReleaseFinder.Environment

/-- Blanks around values. -/
def isSpace (c : Char) : Bool :=
  c == ' ' || c == '\t' || c == '\n' || c == '\r' || c == '\x0c'

/-- The text after the blanks at its start. -/
def skipSpaces (text : List Char) : List Char :=
  text.dropWhile isSpace

/-- What ends a value without quotes. -/
def isSeparator (c : Char) : Bool :=
  c == ',' || c == '[' || c == ']' || c == '\x7b' || c == '\x7d'

/-- A whole number without a sign, or with a plus. -/
def natural? (text : List Char) : Option Nat :=
  (match text with
    | '+' :: digits => Decimal.readNat? digits
    | digits => Decimal.readNat? digits).bind
    fun value => if Width.fits 64 value then some value else none

/-- A whole number with a sign. -/
def signed? (text : List Char) : Option Int :=
  (Decimal.readInt? text).bind fun value =>
    if Width.fitsSigned 64 value then some value else none

/-- A value without quotes: a number if it reads as one, else a text. -/
def bareValue (text : List Char) : Tree :=
  let text := Text.trimChars text
  let float? := if text.contains '.' then Decimal.readFloat? text else none
  match float?, natural? text, signed? text with
  | some value, _, _ => .float value
  | none, some value, _ => .integer value
  | none, none, some value => .integer value
  | none, none, none => .text (String.ofList text)

/-- The characters up to a closing quote, with their escapes, and the text after it. -/
def splitQuoted? : List Char → Option (List Char × List Char)
  | [] => none
  | '"' :: rest => some ([], rest)
  | '\\' :: c :: rest => (splitQuoted? rest).map fun (found, rest) => ('\\' :: c :: found, rest)
  | c :: rest => (splitQuoted? rest).map fun (found, rest) => (c :: found, rest)

/-- A text with its escapes read. -/
def unescape? (text : List Char) : Option String :=
  (Toml.lineText? '"' (text.length + 2) [] (text ++ ['"'])).bind fun (found, rest) =>
    if rest.isEmpty then some found else none

/-- A quoted text after its opening quote. -/
def quoted? (text : List Char) : Option (String × List Char) := do
  let (inside, rest) ← splitQuoted? text
  return (← unescape? inside, rest)

/-- The name of a member. -/
def name? : List Char → Option (String × List Char)
  | '"' :: rest => quoted? rest
  | text =>
    let name := text.takeWhile Toml.isKeyChar
    if name.isEmpty then none else some (String.ofList name, text.dropWhile Toml.isKeyChar)

/-- The record of members; of several with one name the last one stays. -/
def recordOf (members : List (String × Tree)) : Tree :=
  .record (Dictionary.ofList members).entries

mutual

/-- A value at the beginning of a text, with the blanks around it. -/
def value? : Nat → List Char → Option (Tree × List Char)
  | 0, _ => none
  | fuel + 1, text => do
    let (tree, rest) ←
      match skipSpaces text with
      | 't' :: 'r' :: 'u' :: 'e' :: rest => some (Tree.bool true, rest)
      | 'f' :: 'a' :: 'l' :: 's' :: 'e' :: rest => some (Tree.bool false, rest)
      | '\x7b' :: rest => (members? fuel rest).map fun (members, rest) => (recordOf members, rest)
      | '[' :: rest => (items? fuel rest).map fun (items, rest) => (.list items, rest)
      | '"' :: rest => (quoted? rest).map fun (found, rest) => (.text found, rest)
      | '\'' :: c :: '\'' :: rest => some (.text (String.ofList [c]), rest)
      | '\'' :: _ => none
      | rest =>
        some (bareValue (rest.takeWhile fun c => !isSeparator c),
          rest.dropWhile fun c => !isSeparator c)
    return (tree, skipSpaces rest)

/-- The items of a list up to its closing bracket. -/
def items? : Nat → List Char → Option (List Tree × List Char)
  | 0, _ => none
  | _ + 1, ']' :: rest => some ([], rest)
  | fuel + 1, text => do
    let (item, rest) ← value? fuel text
    match rest with
    | ',' :: rest =>
      let (items, rest) ← items? fuel rest
      return (item :: items, rest)
    | ']' :: rest => return ([item], rest)
    | _ => none

/-- The members of a record up to its closing brace. -/
def members? : Nat → List Char → Option (List (String × Tree) × List Char)
  | 0, _ => none
  | _ + 1, '\x7d' :: rest => some ([], rest)
  | fuel + 1, text => do
    let (name, rest) ← name? (skipSpaces text)
    match skipSpaces rest with
    | '=' :: rest =>
      let (tree, rest) ← value? fuel rest
      match rest with
      | ',' :: rest =>
        let (members, rest) ← members? fuel rest
        return ((name, tree) :: members, rest)
      | '\x7d' :: rest => return ([(name, tree)], rest)
      | _ => none
    | _ => none

end

/-- The value of a variable. -/
def valueOf (text : String) : Tree :=
  match value? (text.length + 1) text.toList with
  | some (tree, []) => tree
  | _ => .text text

/-- What the names of variables begin with, in any letter case. -/
def namePrefix : String := "MYDIA_"

/-- The parts of the setting that a variable's name spells out, in lower case. Blanks around the
name and behind its beginning do not count. A name with an empty part spells out nothing. -/
def settingName? (name : String) : Option (List String) :=
  let characters := (Text.trim name).toList
  let start := String.ofList (characters.take namePrefix.length)
  let rest := String.ofList (characters.drop namePrefix.length)
  let setting := Text.asciiLower (Text.trim (".".intercalate (rest.splitOn "__")))
  let parts := setting.splitOn "."
  if Text.sameLetters start namePrefix && parts.all (!·.isEmpty) then some parts else none

/-- A value under the parts of a name. -/
def nested (parts : List String) (tree : Tree) : Tree :=
  parts.foldr (fun part inner => .record [(part, inner)]) tree

/-- The members of the second record that the first one does not have. -/
def added (members others : List (String × Tree)) : List (String × Tree) :=
  others.filter fun other => !members.any (·.1 == other.1)

mutual

/-- The first tree with the second laid over it: records are merged, and everything else is
replaced. -/
def overlay : Tree → Tree → Tree
  | .record members, .record others =>
    .record (overlayMembers members others ++ added members others)
  | _, tree => tree

/-- The members of the first record, with those of the second laid over them. -/
def overlayMembers : List (String × Tree) → List (String × Tree) → List (String × Tree)
  | [], _ => []
  | (name, tree) :: rest, others =>
    (name, match others.lookup name with
      | some other => overlay tree other
      | none => tree) :: overlayMembers rest others

end

/-- The record that the variables make up, laid over one another in order of their names. -/
def recordOfVariables (environment : List (String × String)) : Tree :=
  let inOrder := environment.mergeSort fun left right => decide (left.1 ≤ right.1)
  inOrder.foldl
    (fun tree (name, value) =>
      match settingName? name with
      | none => tree
      | some parts => overlay tree (nested parts (valueOf value)))
    (.record [])

/-- A tree with the variables laid over it. -/
def overlaid (tree : Tree) (environment : List (String × String)) : Tree :=
  overlay tree (recordOfVariables environment)

end ReleaseFinder.Environment
