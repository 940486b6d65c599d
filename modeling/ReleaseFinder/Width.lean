/-!
# Widths of whole numbers

Which whole numbers fit in a number of bits, without a sign and with one.
-/

namespace ReleaseFinder.Width

/-- How many values so many bits can hold. -/
def valueCount (bits : Nat) : Nat :=
  Nat.pow 2 bits

/-- The number fits in so many bits. -/
def fits (bits : Nat) (value : Int) : Bool :=
  decide (0 ≤ value) && decide (value < valueCount bits)

/-- The number fits in so many bits, one of which is its sign. -/
def fitsSigned (bits : Nat) (value : Int) : Bool :=
  decide (-(valueCount (bits - 1) : Int) ≤ value) && decide (value < valueCount (bits - 1))

end ReleaseFinder.Width
