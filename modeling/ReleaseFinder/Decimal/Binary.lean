/-!
# Binary floats

A float read as what it stands for: not a number, an infinity, or a sign, a significand and a power
of two. `Binary.ofFloat` works on the stored bits. Beside it stand the total order of the stored
values and rounding to a whole number, a half going away from zero.
-/

namespace ReleaseFinder.Decimal

/-- The value of a float. A finite one is `± significand · 2 ^ exponent`. -/
inductive Binary where
  | nan
  | infinite (negative : Bool)
  | finite (negative : Bool) (significand : Nat) (exponent : Int)
deriving Repr, DecidableEq

/-- The value that the sign, the exponent field and the fraction of a stored float stand for. -/
def Binary.ofFields (negative : Bool) (exponentField fraction : Nat) : Binary :=
  if exponentField = 2047 then
    if fraction = 0 then .infinite negative else .nan
  else if exponentField = 0 then .finite negative fraction (-1074)
  else .finite negative (Nat.pow 2 52 + fraction) ((exponentField : Int) - 1075)

/-- The value of a float. -/
def Binary.ofFloat (x : Float) : Binary :=
  let bits := x.toBits.toNat
  .ofFields (decide (Nat.pow 2 63 ≤ bits)) (bits / Nat.pow 2 52 % Nat.pow 2 11)
    (bits % Nat.pow 2 52)

/-- The place of a float in the total order of stored values: the bits without the sign, counted
upwards from zero for positive values and downwards from minus one for negative ones. Of the values
that are not a number, `Float.toBits` knows the one without a sign; its place is above infinity. -/
def rank (x : Float) : Int :=
  let bits := x.toBits.toNat
  if Nat.pow 2 63 ≤ bits then -((bits - Nat.pow 2 63 : Nat) : Int) - 1 else bits

/-- The whole number nearest to `significand / 2 ^ places`, a half going up. -/
def roundHalfUp (significand places : Nat) : Nat :=
  (2 * significand + Nat.pow 2 places) / Nat.pow 2 (places + 1)

/-- The whole number nearest to a float, a half going away from zero. -/
def round (x : Float) : Float :=
  match Binary.ofFloat x with
  | .finite negative significand (.negSucc below) =>
    let whole := Float.ofNat (roundHalfUp significand (below + 1))
    if negative then -whole else whole
  | _ => x

/-- A float rounded to hundredths, a half going away from zero. -/
def roundToHundredths (x : Float) : Float :=
  round (x * 100) / 100

end ReleaseFinder.Decimal
