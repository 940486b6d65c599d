/-!
# Numerals

Decimal numbers as they are written: a sign, digits with an optional point, and an optional power of
ten. `readFloat?` reads a whole text as a float, rounded once to the nearest; infinities and
not-a-number may be spelt out.
-/

namespace ReleaseFinder.Decimal

/-- The number `± digits · 10 ^ exponent`. -/
structure Numeral where
  negative : Bool
  digits : Nat
  exponent : Int
deriving Repr, DecidableEq

/-- The float nearest to a numeral. Exponents past the range of floats are cut off first, so a huge
power of ten is never computed. -/
def Numeral.toFloat (numeral : Numeral) : Float :=
  let size := ((Nat.toDigits 10 numeral.digits).length : Int) + numeral.exponent
  let magnitude : Float :=
    if numeral.digits = 0 then 0.0
    else if 320 < size then 1.0 / 0.0
    else if size < -340 then 0.0
    else match numeral.exponent with
      | .ofNat up => Float.ofScientific numeral.digits false up
      | .negSucc below => Float.ofScientific numeral.digits true (below + 1)
  if numeral.negative then -magnitude else magnitude

/-- The value of a row of decimal digits read after the number `start`. -/
def digitsValue (start : Nat) (digits : List Char) : Nat :=
  digits.foldl (fun value c => value * 10 + (c.toNat - '0'.toNat)) start

/-- The value of a text of one or more decimal digits. -/
def readNat? (text : List Char) : Option Nat :=
  if text ≠ [] ∧ text.all Char.isDigit then some (digitsValue 0 text) else none

/-- An optional sign in front of a text: whether it is a minus, and the text after it. -/
def splitSign : List Char → Bool × List Char
  | '-' :: rest => (true, rest)
  | '+' :: rest => (false, rest)
  | rest => (false, rest)

/-- The value of a text of decimal digits with an optional sign. -/
def readInt? (text : List Char) : Option Int :=
  let (negative, digits) := splitSign text
  (readNat? digits).map fun value => if negative then -(value : Int) else value

/-- An optional power of ten at the end of a numeral. -/
def readExponent? : List Char → Option Int
  | [] => some 0
  | mark :: rest => if mark = 'e' ∨ mark = 'E' then readInt? rest else none

/-- A numeral without a sign: digits before the point, after it, or both, and an optional power of
ten. -/
def readMagnitude? (text : List Char) : Option (Nat × Int) :=
  let whole := text.takeWhile Char.isDigit
  let rest := text.dropWhile Char.isDigit
  let (places, rest) := match rest with
    | '.' :: rest => (rest.takeWhile Char.isDigit, rest.dropWhile Char.isDigit)
    | _ => ([], rest)
  if whole = [] ∧ places = [] then none
  else
    (readExponent? rest).map fun exponent =>
      (digitsValue 0 (whole ++ places), exponent - places.length)

/-- A whole text as a numeral with an optional sign. -/
def readNumeral? (text : List Char) : Option Numeral :=
  let (negative, magnitude) := splitSign text
  (readMagnitude? magnitude).map fun (digits, exponent) => ⟨negative, digits, exponent⟩

/-- A whole text as a float: a numeral, an infinity or not-a-number, in any letter case. -/
def readFloat? (text : List Char) : Option Float :=
  let (negative, magnitude) := splitSign text
  let word := String.ofList (magnitude.map Char.toLower)
  let signed (x : Float) := if negative then -x else x
  if word = "inf" ∨ word = "infinity" then some (signed (1.0 / 0.0))
  else if word = "nan" then some (0.0 / 0.0)
  else (readNumeral? text).map Numeral.toFloat

end ReleaseFinder.Decimal
