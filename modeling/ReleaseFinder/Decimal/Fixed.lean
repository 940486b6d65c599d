import ReleaseFinder.Decimal.Binary

/-!
# Fixed places

A float written with a fixed number of decimal places. The exact value is rounded once, a half
going to the even neighbour, so a long tail of digits never rounds twice.
-/

namespace ReleaseFinder.Decimal

/-- The whole number nearest to a quotient, a half going to the even neighbour. -/
def roundHalfEven (numerator denominator : Nat) : Nat :=
  let quotient := numerator / denominator
  let twice := 2 * (numerator % denominator)
  if twice < denominator then quotient
  else if denominator < twice then quotient + 1
  else quotient + quotient % 2

/-- The digits of a number, padded with zeros on the left to at least `width`. -/
def paddedDigits (width n : Nat) : List Char :=
  let digits := Nat.toDigits 10 n
  List.replicate (width - digits.length) '0' ++ digits

/-- `n / 10 ^ places` in positional notation. -/
def withPoint (places n : Nat) : String :=
  let whole := Nat.toDigits 10 (n / Nat.pow 10 places)
  if places = 0 then String.ofList whole
  else String.ofList (whole ++ '.' :: paddedDigits places (n % Nat.pow 10 places))

/-- The multiple of `10 ^ -places` nearest to `significand · 2 ^ exponent`, counted in that unit. -/
def nearestUnits (places significand : Nat) : Int → Nat
  | .ofNat up => significand * Nat.pow 2 up * Nat.pow 10 places
  | .negSucc below => roundHalfEven (significand * Nat.pow 10 places) (Nat.pow 2 (below + 1))

/-- A float with a fixed number of places. The sign of a zero is kept. -/
def fixed (places : Nat) (x : Float) : String :=
  match Binary.ofFloat x with
  | .nan => "NaN"
  | .infinite negative => if negative then "-inf" else "inf"
  | .finite negative significand exponent =>
    let text := withPoint places (nearestUnits places significand exponent)
    if negative then "-" ++ text else text

end ReleaseFinder.Decimal
