/-!
# Score numbers

Scores are computed with the four operations, whole numbers and comparison, and nothing else. The
formulas are written once over any such numbers: floats when the program runs, exact numbers when
their laws are studied.
-/

namespace ReleaseFinder

/-- Numbers that scores can be computed in. -/
class Scalar (α : Type) extends Add α, Sub α, Mul α, Div α, LT α where
  ofNat : Nat → α
  decidableLT : DecidableLT α

namespace Scalar

variable {α : Type} [Scalar α]

instance : DecidableLT α := decidableLT

/-- A number moved to the nearer end of a window when it lies outside. -/
def clamp (low high x : α) : α :=
  if x < low then low else if high < x then high else x

/-- A quotient of whole numbers. -/
def ratio (numerator denominator : Nat) : α :=
  ofNat numerator / ofNat denominator

end Scalar

instance : Scalar Float where
  ofNat := Float.ofNat
  decidableLT := inferInstance

end ReleaseFinder
