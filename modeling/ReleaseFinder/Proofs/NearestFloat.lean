import ReleaseFinder.Proofs.FloatComparison

/-!
# The nearest float

A number is rounded to a float in its unit, the least power of two in which it has at most 53 bits
and that can be stored: it goes to the nearest whole number of units, a half to the even one.
`nearestHeight` is the height of the float that it is rounded to.

Two facts carry the arithmetic of floats. The nearest height grows with the number, over the borders
of units too; and a number that can be stored stays where it is.
-/

namespace ReleaseFinder.Decimal

/-! ## Whole numbers -/

/-- The whole number nearest to a number that is not negative. A half goes to the even one. -/
def nearestEven (x : ℚ) : ℕ :=
  if x - ⌊x⌋₊ < 1 / 2 then ⌊x⌋₊
  else if 1 / 2 < x - ⌊x⌋₊ then ⌊x⌋₊ + 1
  else ⌊x⌋₊ + ⌊x⌋₊ % 2

/-- The nearest whole number is the one below or the one above. -/
theorem nearestEven_bounds (x : ℚ) : ⌊x⌋₊ ≤ nearestEven x ∧ nearestEven x ≤ ⌊x⌋₊ + 1 := by
  unfold nearestEven
  split_ifs <;> omega

/-- A whole number is nearest to itself. -/
theorem nearestEven_natCast (n : ℕ) : nearestEven n = n := by
  rw [nearestEven, Nat.floor_natCast, sub_self, if_pos (by norm_num)]

/-- Larger numbers have no smaller nearest ones. Between two whole numbers this is a matter of the
halves. -/
theorem nearestEven_le {x y : ℚ} (less : x ≤ y) : nearestEven x ≤ nearestEven y := by
  have floors := Nat.floor_le_floor less
  rcases Nat.lt_or_eq_of_le floors with apart | same
  · have below := (nearestEven_bounds x).2
    have above := (nearestEven_bounds y).1
    omega
  · unfold nearestEven
    rw [← same]
    split_ifs with xLow yLow yHigh xHigh yLow yHigh yLow yHigh <;>
      first | omega | (exfalso; linarith)

/-! ## The unit of a number -/

/-- The significand of a number counts powers of two with this exponent: the least one that leaves
it at most 53 bits and can be stored. -/
structure UnitExponent (x : ℚ) (exponent : ℤ) : Prop where
  least : -1074 ≤ exponent
  reached : exponent = -1074 ∨ (2 : ℚ) ^ (exponent + 52) ≤ x
  below : x < (2 : ℚ) ^ (exponent + 53)

/-- Powers of two are positive. -/
theorem two_zpow_pos (exponent : ℤ) : (0 : ℚ) < 2 ^ exponent :=
  zpow_pos two_pos exponent

/-- Powers of two grow with the exponent. -/
theorem two_zpow_le {exponent other : ℤ} (less : exponent ≤ other) :
    (2 : ℚ) ^ exponent ≤ 2 ^ other :=
  zpow_le_zpow_right₀ one_le_two less

/-- The power of two some places above another one. -/
theorem two_zpow_add (exponent : ℤ) (places : ℕ) :
    (2 : ℚ) ^ (exponent + places) = (2 ^ places : ℕ) * 2 ^ exponent := by
  rw [zpow_add₀ two_ne_zero, zpow_natCast, mul_comm, Nat.cast_pow, Nat.cast_ofNat]

/-- A larger number has no smaller unit. -/
theorem UnitExponent.le {x y : ℚ} {exponent other : ℤ} (unit : UnitExponent x exponent)
    (otherUnit : UnitExponent y other) (less : x ≤ y) : exponent ≤ other := by
  have least := otherUnit.least
  rcases unit.reached with rfl | reached
  · exact least
  · by_contra above
    have crossed : (2 : ℚ) ^ (other + 53) ≤ 2 ^ (exponent + 52) := two_zpow_le (by omega)
    have below := otherUnit.below
    linarith

/-- The exponent of the unit. -/
def unitExponent (x : ℚ) : ℤ :=
  if x < 2 ^ (-1022 : ℤ) then -1074 else Int.log 2 x - 52

/-- The unit of a number fits it: the number has at most 53 bits in it, and exactly so many unless
it is the least. -/
theorem unitExponent_spec (x : ℚ) : UnitExponent x (unitExponent x) := by
  unfold unitExponent
  split_ifs with small
  · exact ⟨le_rfl, Or.inl rfl, small.trans_le (two_zpow_le (by norm_num))⟩
  · rw [not_lt] at small
    have positive : 0 < x := (two_zpow_pos _).trans_le small
    have reached := Int.zpow_log_le_self (b := 2) one_lt_two positive
    have below := Int.lt_zpow_succ_log_self (b := 2) one_lt_two x
    have normal := (Int.zpow_le_iff_le_log one_lt_two positive).mp small
    refine ⟨by omega, Or.inr ?_, ?_⟩
    · rwa [sub_add_cancel]
    · rwa [show Int.log 2 x - 52 + 53 = Int.log 2 x + 1 by omega]

/-- Only one unit fits a number. -/
theorem UnitExponent.eq {x : ℚ} {exponent : ℤ} (unit : UnitExponent x exponent) :
    unitExponent x = exponent :=
  le_antisymm ((unitExponent_spec x).le unit le_rfl) (unit.le (unitExponent_spec x) le_rfl)

/-! ## The nearest float -/

/-- The height of the float that a number is rounded to, if that is not beyond all of them. -/
def nearestHeight (x : ℚ) : ℤ :=
  (unitExponent x + 1074) * 2 ^ 52 + nearestEven (x / 2 ^ unitExponent x)

/-- In its unit, a number has at most 53 bits, and it has them all unless the unit is the least
one. -/
theorem UnitExponent.significand {x : ℚ} {exponent : ℤ} (unit : UnitExponent x exponent) :
    x / 2 ^ exponent < (2 ^ 53 : ℕ) ∧
      (exponent = -1074 ∨ ((2 ^ 52 : ℕ) : ℚ) ≤ x / 2 ^ exponent) := by
  have positive := two_zpow_pos exponent
  constructor
  · rw [div_lt_iff₀ positive, ← two_zpow_add]
    exact unit.below
  · refine unit.reached.imp_right ?_
    intro reached
    rw [le_div_iff₀ positive, ← two_zpow_add]
    exact reached

/-- A number is rounded to at most 53 bits of its unit, or to the next power of two. -/
theorem UnitExponent.nearestEven {x : ℚ} {exponent : ℤ} (unit : UnitExponent x exponent) :
    nearestEven (x / 2 ^ exponent) ≤ 2 ^ 53 ∧
      (exponent = -1074 ∨ 2 ^ 52 ≤ nearestEven (x / 2 ^ exponent)) := by
  obtain ⟨below, reached⟩ := unit.significand
  constructor
  · exact (nearestEven_le below.le).trans_eq (nearestEven_natCast _)
  · refine reached.imp_right ?_
    intro reached
    exact (nearestEven_natCast _).symm.trans_le (nearestEven_le reached)

/-- Rounding keeps the order of numbers. A number with a smaller unit is rounded to the start of the
next units at most. -/
theorem nearestHeight_le {x y : ℚ} (less : x ≤ y) : nearestHeight x ≤ nearestHeight y := by
  have unit := unitExponent_spec x
  have otherUnit := unitExponent_spec y
  unfold nearestHeight
  rcases (unit.le otherUnit less).eq_or_lt with same | apart
  · have significands : x / 2 ^ unitExponent x ≤ y / 2 ^ unitExponent x :=
      div_le_div_of_nonneg_right less (two_zpow_pos _).le
    have nearest := nearestEven_le significands
    rw [← same]
    omega
  · have below := unit.nearestEven.1
    have reached := otherUnit.nearestEven.2
    have least := unit.least
    omega

/-- What can be stored is rounded to itself. -/
theorem nearestHeight_stored {significand : ℕ} {exponent : ℤ}
    (stored : StoredFinite significand exponent) :
    nearestHeight (significand * 2 ^ exponent) = magnitude significand exponent := by
  obtain ⟨positive, bounded, least, -, normal⟩ := stored
  have unitPositive := two_zpow_pos exponent
  have unit : UnitExponent ((significand : ℚ) * 2 ^ exponent) exponent := by
    refine ⟨least, normal.symm.imp_right ?_, ?_⟩
    · intro normal
      refine (two_zpow_add exponent 52).trans_le ?_
      exact mul_le_mul_of_nonneg_right (by exact_mod_cast normal) unitPositive.le
    · refine lt_of_lt_of_eq ?_ (two_zpow_add exponent 53).symm
      exact mul_lt_mul_of_pos_right (by exact_mod_cast bounded) unitPositive
  rw [nearestHeight, unit.eq, mul_div_cancel_right₀ _ unitPositive.ne', nearestEven_natCast,
    magnitude]

/-- Zero is at height zero. -/
theorem nearestHeight_zero : nearestHeight 0 = 0 := by
  have unit : UnitExponent 0 (-1074) := ⟨le_rfl, Or.inl rfl, two_zpow_pos _⟩
  rw [nearestHeight, unit.eq, zero_div, ← Nat.cast_zero, nearestEven_natCast]
  rfl

end ReleaseFinder.Decimal
