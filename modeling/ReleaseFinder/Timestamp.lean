import ReleaseFinder.Text.Blank
import ReleaseFinder.Decimal.Fixed
import ReleaseFinder.Decimal.Numeral

/-!
# Timestamps

Moments in universal time, read from and written as internet timestamps. The reader accepts blanks
between the parts, a blank or a small letter between date and time, and any offset from universal
time. A sixtieth second is kept: it is the second before it with more than a second's worth of
nanoseconds.
-/

namespace ReleaseFinder

/-- A moment in universal time. -/
structure Timestamp where
  /-- Days since the first of January 1970. -/
  day : Int
  /-- Seconds since midnight. -/
  second : Nat
  /-- At least a full second's worth in a leap second. -/
  nanosecond : Nat
deriving Repr, DecidableEq

namespace Timestamp

/-- Whether a year has a twenty-ninth of February. -/
def isLeapYear (year : Int) : Bool :=
  year % 4 == 0 && (year % 100 != 0 || year % 400 == 0)

/-- The number of days in a month. -/
def daysInMonth (year : Int) (month : Nat) : Nat :=
  match month with
  | 2 => if isLeapYear year then 29 else 28
  | 4 | 6 | 9 | 11 => 30
  | _ => 31

/-- The number of a calendar day, counted from the first of January 1970. Years are counted from
March, so that a leap day ends its year. -/
def dayNumber (year : Int) (month day : Nat) : Int :=
  let year := if month ≤ 2 then year - 1 else year
  let era := year / 400
  let yearOfEra := year - era * 400
  let monthFromMarch : Int := (month + 9 : Nat) % 12
  let dayOfYear := (153 * monthFromMarch + 2) / 5 + day - 1
  let dayOfEra := yearOfEra * 365 + yearOfEra / 4 - yearOfEra / 100 + dayOfYear
  era * 146097 + dayOfEra - 719468

/-- The year, the month and the day of the month with a number. -/
def civil (dayNumber : Int) : Int × Int × Int :=
  let shifted := dayNumber + 719468
  let era := shifted / 146097
  let dayOfEra := shifted - era * 146097
  let yearOfEra := (dayOfEra - dayOfEra / 1460 + dayOfEra / 36524 - dayOfEra / 146096) / 365
  let dayOfYear := dayOfEra - (365 * yearOfEra + yearOfEra / 4 - yearOfEra / 100)
  let monthFromMarch := (5 * dayOfYear + 2) / 153
  let day := dayOfYear - (153 * monthFromMarch + 2) / 5 + 1
  let month := if monthFromMarch < 10 then monthFromMarch + 3 else monthFromMarch - 9
  (yearOfEra + era * 400 + (if month ≤ 2 then 1 else 0), month, day)

/-! ## Reading -/

/-- From one to `most` digits, after blanks. -/
def readDigits? (most : Nat) (text : List Char) : Option (Nat × List Char) :=
  let text := text.dropWhile Text.isBlank
  let digits := (text.take most).takeWhile Char.isDigit
  if digits = [] then none else some (Decimal.digitsValue 0 digits, text.drop digits.length)

/-- A year: four digits, or any number of them after a sign. -/
def readYear? (text : List Char) : Option (Int × List Char) :=
  match text.dropWhile Text.isBlank with
  | '-' :: rest => (readUnspaced? rest).map fun (year, rest) => (-(year : Int), rest)
  | '+' :: rest => (readUnspaced? rest).map fun (year, rest) => ((year : Int), rest)
  | rest => (readDigits? 4 rest).map fun (year, rest) => ((year : Int), rest)
where
  /-- Digits that follow their sign at once. -/
  readUnspaced? (text : List Char) : Option (Nat × List Char) :=
    let digits := text.takeWhile Char.isDigit
    if digits = [] then none else some (Decimal.digitsValue 0 digits, text.dropWhile Char.isDigit)

/-- The text after a character, which may have blanks before it. -/
def afterMark? (mark : Char) (text : List Char) : Option (List Char) :=
  match text.dropWhile Text.isBlank with
  | c :: rest => if c = mark then some rest else none
  | [] => none

/-- Nanoseconds after a point, if there is one. Digits past the ninth are cut. -/
def readFraction? : List Char → Option (Nat × List Char)
  | '.' :: rest =>
    let digits := rest.takeWhile Char.isDigit
    if digits = [] then none
    else
      let kept := digits.take 9
      some (Decimal.digitsValue 0 kept * Nat.pow 10 (9 - kept.length), rest.dropWhile Char.isDigit)
  | rest => some (0, rest)

/-- The offset from universal time, in seconds. -/
def readOffset? (text : List Char) : Option (Int × List Char) :=
  match text with
  | [] => none
  | sign :: rest =>
    if ((text.take 3).map Char.toLower) = ['u', 't', 'c'] then some (0, text.drop 3)
    else if sign = 'Z' ∨ sign = 'z' then some (0, rest)
    else if sign = '+' ∨ sign = '-' ∨ sign = '\u2212' then
      match rest with
      | h1 :: h2 :: rest =>
        match rest.dropWhile fun c => c == ':' || Text.isBlank c with
        | m1 :: m2 :: rest =>
          if [h1, h2, m1, m2].all Char.isDigit ∧ m1 < '6' then
            let hours := Decimal.digitsValue 0 [h1, h2]
            let minutes := Decimal.digitsValue 0 [m1, m2]
            let seconds : Int := (hours * 3600 + minutes * 60 : Nat)
            if hours < 24 then some (if sign = '+' then seconds else -seconds, rest) else none
          else none
        | _ => none
      | _ => none
    else none

/-- The years that have a number. -/
def yearInRange (year : Int) : Bool :=
  decide (-262143 ≤ year) && decide (year ≤ 262142)

/-- A whole text as a moment. -/
def read? (text : String) : Option Timestamp := do
  let (year, rest) ← readYear? text.toList
  let (month, rest) ← readDigits? 2 (← afterMark? '-' rest)
  let (day, rest) ← readDigits? 2 (← afterMark? '-' rest)
  let rest ← match rest with
    | 'T' :: rest | 't' :: rest | ' ' :: rest => some rest
    | _ => none
  let (hour, rest) ← readDigits? 2 rest
  let (minute, rest) ← readDigits? 2 (← afterMark? ':' rest)
  let (second, rest) ← readDigits? 2 (← afterMark? ':' rest)
  let (fraction, rest) ← readFraction? rest
  let (offset, rest) ← readOffset? (rest.dropWhile Text.isBlank)
  if rest.all Text.isBlank ∧ yearInRange year ∧ 1 ≤ month ∧ month ≤ 12 ∧ 1 ≤ day ∧
      day ≤ daysInMonth year month ∧ hour < 24 ∧ minute < 60 ∧ second ≤ 60 then
    let leap := second = 60
    let total := dayNumber year month day * 86400 +
      (hour * 3600 + minute * 60 + (if leap then 59 else second) : Nat) - offset
    some
      { day := total / 86400
        second := (total % 86400).toNat
        nanosecond := fraction + if leap then 1000000000 else 0 }
  else none

/-! ## Writing -/

/-- A number of at least two digits. -/
def twoDigits (n : Nat) : String :=
  String.ofList (Decimal.paddedDigits 2 n)

/-- A year: four digits, or a sign and at least four. -/
def writeYear (year : Int) : String :=
  if 0 ≤ year ∧ year ≤ 9999 then String.ofList (Decimal.paddedDigits 4 year.toNat)
  else (if year < 0 then "-" else "+") ++ String.ofList (Decimal.paddedDigits 4 year.natAbs)

/-- Nanoseconds as a fraction of no, three, six or nine digits, the fewest that lose nothing. -/
def writeFraction (nanosecond : Nat) : String :=
  if nanosecond = 0 then ""
  else if nanosecond % 1000000 = 0 then
    "." ++ String.ofList (Decimal.paddedDigits 3 (nanosecond / 1000000))
  else if nanosecond % 1000 = 0 then
    "." ++ String.ofList (Decimal.paddedDigits 6 (nanosecond / 1000))
  else "." ++ String.ofList (Decimal.paddedDigits 9 nanosecond)

/-- A moment in universal time as text. -/
def write (moment : Timestamp) : String :=
  let (year, month, day) := civil moment.day
  let second := moment.second % 60 + moment.nanosecond / 1000000000
  writeYear year ++ "-" ++ twoDigits month.toNat ++ "-" ++ twoDigits day.toNat ++ "T" ++
    twoDigits (moment.second / 3600) ++ ":" ++ twoDigits (moment.second / 60 % 60) ++ ":" ++
    twoDigits second ++ writeFraction (moment.nanosecond % 1000000000) ++ "Z"

end Timestamp

end ReleaseFinder
