import ReleaseFinder.Tree
import ReleaseFinder.Width
import ReleaseFinder.Decimal.Numeral

/-!
# Reading JSON

`Json.read?` decodes a whole text. Members keep their order and their repetitions; what a repeated
name means is for whoever reads the record. A number past the range of floats and a text with half
of a surrogate pair are well formed but have no value. Floats are read with the precision of floats:
their leading digits and their power of ten are rounded before they are brought together.
-/

namespace ReleaseFinder.Json

/-- The blanks between tokens. -/
def isSpace (c : Char) : Bool :=
  c == ' ' || c == '\n' || c == '\t' || c == '\r'

/-- The text after the blanks at its start. -/
def skipSpace (text : List Char) : List Char :=
  text.dropWhile isSpace

/-- The value of a hexadecimal digit. -/
def hexDigit? (c : Char) : Option Nat :=
  if '0' ≤ c ∧ c ≤ '9' then some (c.toNat - '0'.toNat)
  else if 'a' ≤ c ∧ c ≤ 'f' then some (c.toNat - 'a'.toNat + 10)
  else if 'A' ≤ c ∧ c ≤ 'F' then some (c.toNat - 'A'.toNat + 10)
  else none

/-- The value of four hexadecimal digits. -/
def hexUnit? : List Char → Option (Nat × List Char)
  | a :: b :: c :: d :: rest => do
    let a ← hexDigit? a
    let b ← hexDigit? b
    let c ← hexDigit? c
    let d ← hexDigit? d
    some (((a * 16 + b) * 16 + c) * 16 + d, rest)
  | _ => none

/-- The character that a one-letter escape stands for. -/
def simpleEscape? : Char → Option Char
  | '"' => some '"'
  | '\\' => some '\\'
  | '/' => some '/'
  | 'b' => some '\x08'
  | 'f' => some '\x0c'
  | 'n' => some '\n'
  | 'r' => some '\r'
  | 't' => some '\t'
  | _ => none

/-- The first half of a surrogate pair. -/
def isHighSurrogate (unit : Nat) : Bool :=
  0xD800 ≤ unit && unit < 0xDC00

/-- The second half of a surrogate pair. -/
def isLowSurrogate (unit : Nat) : Bool :=
  0xDC00 ≤ unit && unit < 0xE000

/-- What stands after a backslash: the character, or none for half of a surrogate pair. -/
def readEscape? : List Char → Option (Option Char × List Char)
  | 'u' :: rest => do
    let (unit, rest) ← hexUnit? rest
    if isHighSurrogate unit then
      match rest with
      | '\\' :: 'u' :: pair =>
        match hexUnit? pair with
        | some (second, after) =>
          if isLowSurrogate second then
            some (some (Char.ofNat (0x10000 + (unit - 0xD800) * 0x400 + (second - 0xDC00))), after)
          else some (none, rest)
        | none => some (none, rest)
      | _ => some (none, rest)
    else if isLowSurrogate unit then some (none, rest)
    else some (some (Char.ofNat unit), rest)
  | c :: rest => (simpleEscape? c).map fun escaped => (some escaped, rest)
  | [] => none

/-- The rest of a text after its opening quote, with the characters read so far in reverse. The
result is none for a text without a value. -/
def readChars? : Nat → Option (List Char) → List Char → Option (Option String × List Char)
  | 0, _, _ => none
  | _ + 1, _, [] => none
  | _ + 1, found, '"' :: rest => some (found.map fun found => String.ofList found.reverse, rest)
  | fuel + 1, found, '\\' :: rest => do
    let (escaped, rest) ← readEscape? rest
    readChars? fuel (do (← escaped) :: (← found)) rest
  | fuel + 1, found, c :: rest =>
    if c.toNat < 0x20 then none else readChars? fuel (found.map (c :: ·)) rest

/-- A text after its opening quote. -/
def readText? (text : List Char) : Option (Option String × List Char) :=
  readChars? (text.length + 1) (some []) text

/-- The number that leading digits add to the digits before them while it fits in sixty-four bits,
and how many digits are left over. -/
def leadingDigits (start : Nat) : List Char → Nat × Nat
  | [] => (start, 0)
  | c :: rest =>
    let value := Decimal.digitsValue start [c]
    if Width.fits 64 value then leadingDigits value rest else (start, rest.length + 1)

/-- The largest power of ten that is a float. -/
def largestPower : Nat := 308

/-- A float times a power of ten, which is a float as well. Powers too small for that are taken in
steps. -/
def scaled? : Nat → Float → Int → Option Float
  | 0, _, _ => none
  | steps + 1, value, power =>
    let size := min power.natAbs largestPower
    let factor := Decimal.Numeral.toFloat ⟨false, 1, size⟩
    if value == 0.0 then some value
    else if power < -(largestPower : Int) then scaled? steps (value / factor) (power + size)
    else if power < 0 then some (value / factor)
    else if (largestPower : Int) < power || (value * factor).isInf then none
    else some (value * factor)

/-- The value of a float. Two steps leave nothing of a number of sixty-four bits. -/
def floatTree (negative : Bool) (digits : Nat) (power : Int) : Tree :=
  match scaled? 4 (Decimal.Numeral.toFloat ⟨false, digits, 0⟩) power with
  | some value => .float (if negative then -value else value)
  | none => .unreadable

/-- The value of a number. Whole numbers that do not fit are floats, and so is minus zero. -/
def numberTree (negative : Bool) (whole places : List Char) (exponent : Option Int) : Tree :=
  let (front, cut) := leadingDigits 0 whole
  let (digits, unread) := leadingDigits front places
  let float :=
    floatTree negative digits (exponent.getD 0 + cut - (places.length - unread : Nat))
  if places.isEmpty && exponent.isNone && cut = 0 then
    if !negative then .integer digits
    else if digits ≠ 0 && Width.fitsSigned 64 (-digits) then .integer (-digits)
    else float
  else float

/-- A number. -/
def readNumber? (text : List Char) : Option (Tree × List Char) :=
  let (negative, text) := match text with
    | '-' :: rest => (true, rest)
    | _ => (false, text)
  let whole := text.takeWhile Char.isDigit
  let rest := text.dropWhile Char.isDigit
  if whole = [] ∨ (whole.head? = some '0' ∧ whole.length ≠ 1) then none
  else do
    let (places, rest) ← match rest with
      | '.' :: rest =>
        let places := rest.takeWhile Char.isDigit
        if places = [] then none else some (places, rest.dropWhile Char.isDigit)
      | _ => some ([], rest)
    let (exponent, rest) ← match rest with
      | [] => some (none, rest)
      | mark :: after =>
        if mark = 'e' ∨ mark = 'E' then
          let (down, digits) := Decimal.splitSign after
          let power := digits.takeWhile Char.isDigit
          if power = [] then none
          else
            let value : Int := Decimal.digitsValue 0 power
            some (some (if down then -value else value), digits.dropWhile Char.isDigit)
        else some (none, rest)
    some (numberTree negative whole places exponent, rest)

/-- The text after a word that it starts with. -/
def afterWord? (word : String) (text : List Char) : Option (List Char) :=
  if word.toList.isPrefixOf text then some (text.drop word.length) else none

mutual

/-- A value at the start of a text. -/
def readValue? : Nat → List Char → Option (Tree × List Char)
  | 0, _ => none
  | fuel + 1, text =>
    match skipSpace text with
    | '"' :: rest => do
      let (value, rest) ← readText? rest
      some (match value with | some value => .text value | none => .unreadable, rest)
    | '[' :: rest =>
      match skipSpace rest with
      | ']' :: rest => some (.list [], rest)
      | rest => do
        let (items, rest) ← readItems? fuel rest
        some (.list items, rest)
    | '{' :: rest =>
      match skipSpace rest with
      | '}' :: rest => some (.record [], rest)
      | rest => do
        let (members, rest) ← readMembers? fuel rest
        some (.record members, rest)
    | 'n' :: rest => (afterWord? "ull" rest).map (.null, ·)
    | 't' :: rest => (afterWord? "rue" rest).map (.bool true, ·)
    | 'f' :: rest => (afterWord? "alse" rest).map (.bool false, ·)
    | rest => readNumber? rest

/-- The items of a list up to its closing bracket. -/
def readItems? : Nat → List Char → Option (List Tree × List Char)
  | 0, _ => none
  | fuel + 1, text => do
    let (item, rest) ← readValue? fuel text
    match skipSpace rest with
    | ',' :: rest =>
      let (items, rest) ← readItems? fuel rest
      some (item :: items, rest)
    | ']' :: rest => some ([item], rest)
    | _ => none

/-- The members of a record up to its closing brace. -/
def readMembers? : Nat → List Char → Option (List (String × Tree) × List Char)
  | 0, _ => none
  | fuel + 1, text =>
    match skipSpace text with
    | '"' :: rest => do
      let (name, rest) ← readText? rest
      let name ← name
      match skipSpace rest with
      | ':' :: rest =>
        let (value, rest) ← readValue? fuel rest
        match skipSpace rest with
        | ',' :: rest =>
          let (members, rest) ← readMembers? fuel rest
          some ((name, value) :: members, rest)
        | '}' :: rest => some ([(name, value)], rest)
        | _ => none
      | _ => none
    | _ => none

end

/-- The tree of a whole text. -/
def read? (text : String) : Option Tree := do
  let characters := text.toList
  let (tree, rest) ← readValue? (2 * characters.length + 2) characters
  if skipSpace rest = [] then some tree else none

end ReleaseFinder.Json
