import ReleaseFinder.Width
import ReleaseFinder.Decimal.Numeral
import ReleaseFinder.Text.Occurs
import ReleaseFinder.Toml.Text
import ReleaseFinder.Tree

/-!
# Numbers and moments of TOML

Whole numbers to several bases, floats, and dates and times. Digits may be grouped by underscores.
-/

namespace ReleaseFinder.Toml

/-- One or more digits of a kind, grouped by single underscores between them. -/
def groupedDigits? (kind : Char → Bool) (text : List Char) : Option (List Char × List Char) :=
  let inRun (c : Char) : Bool := kind c || c == '_'
  let run := text.takeWhile inRun
  if run.head?.any kind && run.getLast?.any kind && !Text.occurs ['_', '_'] run then
    some (run.filter kind, text.dropWhile inRun)
  else none

/-- A sign, if there is one. -/
def sign? : List Char → List Char × List Char
  | '+' :: rest => (['+'], rest)
  | '-' :: rest => (['-'], rest)
  | rest => ([], rest)

/-- The digits of a decimal number. A zero stands alone. -/
def decimalDigits? : List Char → Option (List Char × List Char)
  | '0' :: rest => some (['0'], rest)
  | text => groupedDigits? Char.isDigit text

/-- The power of ten at the end of a float, if there is one. -/
def exponentPart? : List Char → Option (Option (List Char) × List Char)
  | mark :: rest =>
    if mark = 'e' ∨ mark = 'E' then
      let (sign, rest) := sign? rest
      (groupedDigits? Char.isDigit rest).map fun (digits, rest) =>
        (some ('e' :: sign ++ digits), rest)
    else some (none, mark :: rest)
  | [] => some (none, [])

/-- The places of a float, if there are any. -/
def fractionPart? : List Char → Option (Option (List Char) × List Char)
  | '.' :: rest =>
    (groupedDigits? Char.isDigit rest).map fun (digits, rest) => (some ('.' :: digits), rest)
  | rest => some (none, rest)

/-- A number with a sign: a float if it has places or a power of ten, else a whole number. Floats
past the largest one are refused, and so are whole numbers of more than 64 bits. -/
def decimal? (text : List Char) : Option (Tree × List Char) := do
  let (sign, rest) := sign? text
  let (digits, rest) ← decimalDigits? rest
  let (fraction, rest) ← fractionPart? rest
  let (exponent, rest) ← exponentPart? rest
  if fraction.isNone && exponent.isNone then
    let value ← Decimal.readInt? (sign ++ digits)
    if Width.fitsSigned 64 value then return (.integer value, rest) else none
  else
    let value ← Decimal.readFloat? (sign ++ digits ++ fraction.getD [] ++ exponent.getD [])
    if value == 1.0 / 0.0 then none else return (.float value, rest)

/-- A whole number to a base, after its prefix. -/
def based? (base : Nat) (text : List Char) : Option (Tree × List Char) := do
  let (digits, rest) ← groupedDigits? (fun c => (Json.hexDigit? c).any (· < base)) text
  let value := digits.foldl (fun value c => value * base + (Json.hexDigit? c).getD 0) 0
  if Width.fitsSigned 64 value then return (.integer value, rest) else none

/-- An infinity or not-a-number, with a sign. -/
def special? (text : List Char) : Option (Tree × List Char) :=
  let (sign, rest) := sign? text
  let signed (x : Float) : Tree := .float (if sign = ['-'] then -x else x)
  match rest with
  | 'i' :: 'n' :: 'f' :: rest => some (signed (1.0 / 0.0), rest)
  | 'n' :: 'a' :: 'n' :: rest => some (signed (0.0 / 0.0), rest)
  | _ => none

/-- A number. -/
def number? (text : List Char) : Option (Tree × List Char) :=
  match text with
  | '0' :: 'x' :: rest => based? 16 rest
  | '0' :: 'o' :: rest => based? 8 rest
  | '0' :: 'b' :: rest => based? 2 rest
  | _ => if (special? text).isSome then special? text else decimal? text

/-- A number of exactly so many digits, within bounds. -/
def fixedNumber? (width low high : Nat) (text : List Char) : Option (Nat × List Char) :=
  let digits := text.take width
  let value := Decimal.digitsValue 0 digits
  if digits.length = width ∧ digits.all Char.isDigit ∧ low ≤ value ∧ value ≤ high then
    some (value, text.drop width)
  else none

/-- The text after a character. -/
def after? (c : Char) : List Char → Option (List Char)
  | next :: rest => if next = c then some rest else none
  | [] => none

/-- The number of days of a month. -/
def daysOf (year month : Nat) : Nat :=
  if month = 2 then
    if year % 4 = 0 ∧ (year % 100 ≠ 0 ∨ year % 400 = 0) then 29 else 28
  else if [4, 6, 9, 11].contains month then 30
  else 31

/-- The text after a date. -/
def afterDate? (text : List Char) : Option (List Char) := do
  let (year, rest) ← fixedNumber? 4 0 9999 text
  let (month, rest) ← fixedNumber? 2 1 12 (← after? '-' rest)
  let (_, rest) ← fixedNumber? 2 1 (daysOf year month) (← after? '-' rest)
  return rest

/-- The text after a time of day. -/
def afterTime? (text : List Char) : Option (List Char) := do
  let (_, rest) ← fixedNumber? 2 0 23 text
  let (_, rest) ← fixedNumber? 2 0 59 (← after? ':' rest)
  let (_, rest) ← fixedNumber? 2 0 60 (← after? ':' rest)
  match rest with
  | '.' :: c :: places => if c.isDigit then return places.dropWhile Char.isDigit else return rest
  | _ => return rest

/-- The text after a difference from universal time, if there is one. -/
def afterOffset? (text : List Char) : Option (List Char) :=
  match text with
  | 'Z' :: rest | 'z' :: rest => some rest
  | '+' :: rest | '-' :: rest => do
    let (_, rest) ← fixedNumber? 2 0 23 rest
    let (_, rest) ← fixedNumber? 2 0 59 (← after? ':' rest)
    return rest
  | _ => some text

/-- The text after a moment: a date, a time, or both. -/
def afterMoment? (text : List Char) : Option (List Char) :=
  match afterDate? text with
  | none => afterTime? text
  | some rest =>
    let separated := match rest with
      | c :: _ => c == 'T' || c == 't' || c == ' '
      | [] => false
    match afterTime? (rest.drop 1), separated with
    | some later, true => afterOffset? later
    | _, _ => some rest

/-- The name under which a moment's text is found. -/
def momentName : String := "$__toml_private_datetime"

/-- A moment, kept as a record with its text. -/
def moment? (text : List Char) : Option (Tree × List Char) :=
  (afterMoment? text).map fun rest =>
    (.record [(momentName, .text (String.ofList (text.take (text.length - rest.length))))], rest)

end ReleaseFinder.Toml
