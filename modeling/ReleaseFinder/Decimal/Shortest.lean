import ReleaseFinder.Decimal.Binary

/-!
# Shortest digits

The fewest decimal digits that read back as a float. `Interval.digits?` walks the decimal grids from
coarse to fine and takes the first one that has a point among the reals that round to the float; of
two such points the nearer, of two equally near the even one.
-/

namespace ReleaseFinder.Decimal

/-- A positive decimal `digits · 10 ^ exponent`. -/
structure Scientific where
  digits : Nat
  exponent : Int
deriving Repr, DecidableEq

/-- The reals that round to a positive float, as quotients over one denominator. The ends belong to
the interval when `closed`. -/
structure Interval where
  low : Nat
  value : Nat
  high : Nat
  denominator : Nat
  closed : Bool

/-- The interval of `significand · 2 ^ exponent`. Below a power of two the floats lie twice as
close, so the lower half is half as wide there. -/
def Interval.ofBinary (significand : Nat) (exponent : Int) : Interval :=
  let narrow := significand = Nat.pow 2 52 ∧ -1074 < exponent
  let below := if narrow then 1 else 2
  let (up, down) := match exponent - 2 with
    | .ofNat up => (Nat.pow 2 up, 1)
    | .negSucc down => (1, Nat.pow 2 (down + 1))
  { low := (4 * significand - below) * up
    value := 4 * significand * up
    high := (4 * significand + 2) * up
    denominator := down
    closed := significand % 2 = 0 }

/-- The power of ten just above a positive quotient:
`10 ^ (p - 1) ≤ numerator / denominator < 10 ^ p`. -/
def decimalMagnitude (numerator denominator : Nat) : Int :=
  if denominator ≤ numerator then (Nat.toDigits 10 (numerator / denominator)).length
  else
    1 - (Nat.toDigits 10 ((denominator + numerator - 1) / numerator - 1)).length

/-- The interval's point on the grid of step `10 ^ exponent` that is nearest to the float. -/
def Interval.pointOn? (interval : Interval) (exponent : Int) : Option Nat :=
  let (up, down) := match exponent with
    | .ofNat up => (Nat.pow 10 up, 1)
    | .negSucc down => (1, Nat.pow 10 (down + 1))
  let step := up * interval.denominator
  let value := interval.value * down
  let floor := value / step
  let distance := value % step
  let above := if interval.closed then interval.low * down else interval.low * down + 1
  let under := if interval.closed then interval.high * down else interval.high * down - 1
  let holdsFloor := decide (0 < floor) && decide (above ≤ floor * step)
  let holdsNext := decide ((floor + 1) * step ≤ under)
  match holdsFloor, holdsNext with
  | false, false => none
  | true, false => some floor
  | false, true => some (floor + 1)
  | true, true =>
    if 2 * distance < step then some floor
    else if step < 2 * distance then some (floor + 1)
    else some (floor + floor % 2)

/-- The digits without their trailing zeros, at most `fuel` of them. -/
def dropZeros : Nat → Scientific → Scientific
  | 0, decimal => decimal
  | fuel + 1, decimal =>
    if decimal.digits % 10 = 0 ∧ decimal.digits ≠ 0 then
      dropZeros fuel ⟨decimal.digits / 10, decimal.exponent + 1⟩
    else decimal

/-- The fewest digits that lie in the interval. Seventeen always suffice. -/
def Interval.digits? (interval : Interval) : Option Scientific :=
  let magnitude := decimalMagnitude interval.value interval.denominator
  (List.range 17).findSome? fun count =>
    let exponent := magnitude - (count + 1 : Nat)
    (interval.pointOn? exponent).map fun digits => dropZeros 20 ⟨digits, exponent⟩

/-- How a decimal is laid out. -/
structure Style where
  /-- Whether a number with this many digits before its point is written positionally. -/
  positional : Int → Bool
  /-- What follows the digits of a whole number. -/
  wholeSuffix : String
  nan : String
  infinity : String

/-- The decimal with the point after its first `point` digits. -/
def Scientific.positional (style : Style) (decimal : Scientific) : String :=
  let digits := Nat.toDigits 10 decimal.digits
  match decimal.exponent with
  | .ofNat zeros => String.ofList (digits ++ List.replicate zeros '0') ++ style.wholeSuffix
  | .negSucc below =>
    let places := below + 1
    if places < digits.length then
      let whole := digits.length - places
      String.ofList (digits.take whole ++ '.' :: digits.drop whole)
    else
      String.ofList ('0' :: '.' :: (List.replicate (places - digits.length) '0' ++ digits))

/-- The decimal with the point after its first digit, and a power of ten. -/
def Scientific.exponential (decimal : Scientific) : String :=
  let digits := Nat.toDigits 10 decimal.digits
  let exponent := decimal.exponent + (digits.length : Int) - 1
  let mantissa := match digits with
    | first :: second :: rest => first :: '.' :: second :: rest
    | _ => digits
  String.ofList mantissa ++ "e" ++ toString exponent

/-- A float in its shortest digits. -/
def shortest (style : Style) (x : Float) : String :=
  let signed (negative : Bool) (text : String) := if negative then "-" ++ text else text
  match Binary.ofFloat x with
  | .nan => style.nan
  | .infinite negative => signed negative style.infinity
  | .finite negative significand exponent =>
    if significand = 0 then signed negative ("0" ++ style.wholeSuffix)
    else
      match (Interval.ofBinary significand exponent).digits? with
      | none => signed negative "0"
      | some decimal =>
        let point := decimal.exponent + ((Nat.toDigits 10 decimal.digits).length : Int)
        signed negative
          (if style.positional point then decimal.positional style else decimal.exponential)

/-- Numbers in messages: never an exponent, and nothing after a whole number. -/
def plainStyle : Style :=
  { positional := fun _ => true, wholeSuffix := "", nan := "NaN", infinity := "inf" }

/-- Numbers in documents: up to sixteen digits before the point and up to five places of zeros after
it are written out, and a whole number ends in `.0`. -/
def documentStyle : Style :=
  { positional := fun point => decide (-5 < point) && decide (point ≤ 16)
    wholeSuffix := ".0", nan := ".nan", infinity := ".inf" }

end ReleaseFinder.Decimal
