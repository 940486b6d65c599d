/-!
# Decimal logarithm

The decimal logarithm of a positive whole number, to sixty-four binary places. Each place comes from
one squaring: squaring a number doubles its logarithm, and the place is one exactly when the square
has left the decade. Powers of ten have exact logarithms.
-/

namespace ReleaseFinder.Decimal

/-- Binary places kept while squaring. -/
def logarithmPrecision : Nat := 192

/-- What stands for one while squaring. -/
def logarithmUnit : Nat := Nat.pow 2 logarithmPrecision

/-- `count` binary places of the logarithm of `x / logarithmUnit`, a number from one up to
ten, written after the places `found`. -/
def logarithmPlaces : Nat → Nat → Nat → Nat
  | 0, _, found => found
  | count + 1, x, found =>
    let square := x * x / logarithmUnit
    if 10 * logarithmUnit ≤ square then
      logarithmPlaces count (square / 10) (2 * found + 1)
    else logarithmPlaces count square (2 * found)

/-- `2 ^ 64` times the decimal logarithm of a positive number, rounded down. -/
def logarithmUnits (n : Nat) : Nat :=
  let decade := (Nat.toDigits 10 n).length - 1
  logarithmPlaces 64 (n * logarithmUnit / Nat.pow 10 decade) decade

/-- The decimal logarithm of a positive number. -/
def logarithm (n : Nat) : Float :=
  Float.ofNat (logarithmUnits n) / Float.ofNat (Nat.pow 2 64)

end ReleaseFinder.Decimal
