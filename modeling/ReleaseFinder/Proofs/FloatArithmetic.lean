import ReleaseFinder.Proofs.FloatRounding

/-!
# Arithmetic of floats that are not negative

A float that is not negative stands for an exact number, or for infinity. The sum of two such
floats, and the product and the quotient of one with a positive number, have the nearest height of
the exact result. As the nearest height grows with the number, these operations keep the order of
floats, and none of them gives what is not a number.

What is not a number stays so under every operation. A difference may lead to it as well, but not if
only finite floats are taken off.
-/

namespace ReleaseFinder.Decimal

open Float.Model UnpackedFloat

/-! ## Numbers and their heights -/

/-- What a stored value that is not negative stands for. -/
inductive Stands : UnpackedFloat → WithTop ℚ → Prop where
  | zero (sign : Sign) : Stands (.zero sign) 0
  | finite {significand : ℕ} {exponent : ℤ} (positive : 0 < significand) :
      Stands (.finite .positive significand exponent positive) (significand * 2 ^ exponent : ℚ)
  | infinity : Stands (.infinity .positive) ⊤

/-- The height of the float that a number or infinity is rounded to. -/
def heightOf : WithTop ℚ → ℤ
  | ⊤ => 2047 * 2 ^ 52
  | (x : ℚ) => min (nearestHeight x) (2047 * 2 ^ 52)

/-- A number is rounded to the nearest height, up to that of infinity. -/
theorem heightOf_coe (x : ℚ) : heightOf x = min (nearestHeight x) (2047 * 2 ^ 52) :=
  rfl

/-- The height grows with the number. -/
theorem heightOf_le {a b : WithTop ℚ} (less : a ≤ b) : heightOf a ≤ heightOf b := by
  induction b with
  | top =>
    cases a with
    | top => exact le_rfl
    | coe x => exact min_le_right _ _
  | coe y =>
    cases a with
    | top => simp at less
    | coe x => exact min_le_min_right _ (nearestHeight_le (WithTop.coe_le_coe.mp less))

/-- Zero is at height zero. -/
theorem heightOf_zero : heightOf 0 = 0 := by
  rw [← WithTop.coe_zero, heightOf_coe, nearestHeight_zero]
  rfl

variable {value other : UnpackedFloat} {a b : WithTop ℚ}

/-- What a stored value stands for is not negative. -/
theorem Stands.nonneg (stands : Stands value a) : 0 ≤ a := by
  cases stands with
  | zero sign => exact le_rfl
  | @finite significand exponent positive =>
    exact WithTop.coe_le_coe.mpr (mul_nonneg (Nat.cast_nonneg _) (two_zpow_pos exponent).le)
  | infinity => exact le_top

/-- A stored value is at the nearest height of what it stands for. -/
theorem Stands.height?_eq (stands : Stands value a) (stored : Stored value) :
    height? value = some (heightOf a) := by
  cases stands with
  | zero sign => rw [heightOf_zero, height?]
  | @finite significand exponent positive =>
    have stored : StoredFinite significand exponent := stored
    rw [height?, heightOf_coe, nearestHeight_stored stored,
      min_eq_left (magnitude_bounds stored).2.le]
    rfl
  | infinity => rfl

/-- Every stored value that is not below zero stands for something. -/
theorem exists_stands {height : ℤ} (stored : Stored value) (high : height? value = some height)
    (nonneg : 0 ≤ height) : ∃ a, Stands value a := by
  rcases value with ⟨_ | _⟩ | _ | sign | ⟨_ | _, significand, exponent, positive⟩
  case infinity.positive => exact ⟨_, .infinity⟩
  case zero => exact ⟨_, .zero sign⟩
  case finite.positive => exact ⟨_, .finite positive⟩
  case notANumber => cases high
  case infinity.negative =>
    cases high
    exact absurd nonneg (by decide)
  case finite.negative =>
    have bounds := magnitude_bounds stored
    cases high
    simp only [Sign.apply] at nonneg
    omega

/-- Stored finite values of one magnitude have one significand and one exponent. -/
theorem magnitude_injective {significand otherSignificand : ℕ} {exponent otherExponent : ℤ}
    (stored : StoredFinite significand exponent)
    (otherStored : StoredFinite otherSignificand otherExponent)
    (same : magnitude significand exponent = magnitude otherSignificand otherExponent) :
    significand = otherSignificand ∧ exponent = otherExponent := by
  obtain ⟨_, bounded, _, _, normal⟩ := stored
  obtain ⟨_, otherBounded, _, _, otherNormal⟩ := otherStored
  unfold magnitude at same
  omega

/-- Stored values of one height stand for one number. -/
theorem Stands.eq_of_height?_eq (stands : Stands value a) (stored : Stored value)
    (otherStands : Stands other b) (otherStored : Stored other)
    (same : height? value = height? other) :
    a = b := by
  cases stands with
  | zero sign =>
    cases otherStands with
    | zero otherSign => rfl
    | finite positive =>
      have bounds := magnitude_bounds otherStored
      simp only [height?, Sign.apply, Option.some.injEq] at same
      omega
    | infinity => cases same
  | @finite significand exponent positive =>
    have bounds := magnitude_bounds stored
    cases otherStands with
    | zero otherSign =>
      simp only [height?, Sign.apply, Option.some.injEq] at same
      omega
    | finite otherPositive =>
      simp only [height?, Sign.apply, Option.some.injEq] at same
      obtain ⟨rfl, rfl⟩ := magnitude_injective stored otherStored same
      rfl
    | infinity =>
      simp only [height?, Sign.apply, Option.some.injEq] at same
      omega
  | infinity =>
    cases otherStands with
    | zero otherSign => cases same
    | finite positive =>
      have bounds := magnitude_bounds otherStored
      simp only [height?, Sign.apply, Option.some.injEq] at same
      omega
    | infinity => rfl

/-- Stored values stand for numbers in the order of their heights. -/
theorem Stands.le_of_heightOf_le (stands : Stands value a) (stored : Stored value)
    (otherStands : Stands other b) (otherStored : Stored other) (low : heightOf a ≤ heightOf b) :
    a ≤ b := by
  by_contra above
  have heights : heightOf a = heightOf b := low.antisymm (heightOf_le (not_le.mp above).le)
  have same : height? value = height? other := by
    rw [stands.height?_eq stored, otherStands.height?_eq otherStored, heights]
  exact above (stands.eq_of_height?_eq stored otherStands otherStored same).le

/-! ## Operations on stored values -/

/-- What is found of a result when it has been stored. -/
def storedHeight? (result : UnpackedFloat) : Option ℤ :=
  height? (UnpackedFloat.unpack Format.binary64 (UnpackedFloat.pack Format.binary64 result))

/-- What can be stored as it is keeps its height. -/
theorem storedHeight?_of_stored (stored : Stored value) : storedHeight? value = height? value := by
  rcases value with sign | _ | sign | ⟨sign, significand, exponent, positive⟩
  case infinity => rw [storedHeight?, UnpackedFloat.pack, unpack_packedInfinity]
  case notANumber => rw [storedHeight?, UnpackedFloat.pack, unpack_packedNaN]
  case zero => rw [storedHeight?, UnpackedFloat.pack, unpack_packedZero]
  case finite => rw [storedHeight?, unpack_pack_finite sign positive stored]

/-- A zero is stored at the height of zero, whatever its sign. -/
theorem storedHeight?_zero (sign : Sign) : storedHeight? (.zero sign) = some (heightOf 0) := by
  rw [heightOf_zero]
  exact @storedHeight?_of_stored (.zero sign) trivial

/-- Infinity is stored at its own height. -/
theorem storedHeight?_infinity : storedHeight? (.infinity .positive) = some (heightOf ⊤) :=
  storedHeight?_of_stored trivial

/-- A result that is rounded from a number is stored at the nearest height of the number. -/
theorem RoundsTo.storedHeight?_eq {x : ℚ} {result : UnpackedFloat}
    (rounds : RoundsTo .positive x result) : storedHeight? result = some (heightOf x) :=
  rounds.height?_pack

/-- The sum of two finite values is rounded once. -/
theorem roundsTo_add {significand otherSignificand : ℕ} {exponent otherExponent : ℤ}
    (positive : 0 < significand) (otherPositive : 0 < otherSignificand) :
    RoundsTo .positive (significand * 2 ^ exponent + otherSignificand * 2 ^ otherExponent)
      (add Format.binary64 (.finite .positive significand exponent positive)
        (.finite .positive otherSignificand otherExponent otherPositive)) := by
  obtain ⟨-, number⟩ := decreaseExponent_eq significand exponent (min exponent otherExponent)
  obtain ⟨-, otherNumber⟩ :=
    decreaseExponent_eq otherSignificand otherExponent (min exponent otherExponent)
  rw [min_eq_right (min_le_left _ _)] at number
  rw [min_eq_right (min_le_right _ _)] at otherNumber
  unfold UnpackedFloat.add
  dsimp only [Sign.apply]
  generalize (decreaseExponent significand exponent (min exponent otherExponent)).1 = first at *
  generalize (decreaseExponent otherSignificand otherExponent (min exponent otherExponent)).1 =
    second at *
  have firstPositive : 0 < first := by
    have numberPositive : (0 : ℚ) < first * 2 ^ min exponent otherExponent :=
      number ▸ mul_pos (Nat.cast_pos.mpr positive) (two_zpow_pos _)
    exact Nat.cast_pos.mp (pos_of_mul_pos_left numberPositive (two_zpow_pos _).le)
  have above : compare ((first : ℤ) + second) 0 = .gt := Int.compare_eq_gt.mpr (by omega)
  have whole : ((first : ℤ) + second).toNat = first + second := by
    omega
  rw [UnpackedFloat.normalize, above]
  dsimp only
  rw [whole, ← number, ← otherNumber, ← add_mul, ← Nat.cast_add]
  exact roundsTo_round .positive _ (by omega)

/-- The product of two finite values is rounded once. -/
theorem roundsTo_mul {significand otherSignificand : ℕ} {exponent otherExponent : ℤ}
    (stored : StoredFinite significand exponent)
    (otherStored : StoredFinite otherSignificand otherExponent) (positive : 0 < significand)
    (otherPositive : 0 < otherSignificand) :
    RoundsTo .positive (significand * 2 ^ exponent * (otherSignificand * 2 ^ otherExponent))
      (mul Format.binary64 (.finite .positive significand exponent positive)
        (.finite .positive otherSignificand otherExponent otherPositive)) := by
  have number : (significand * 2 ^ exponent * (otherSignificand * 2 ^ otherExponent) : ℚ) =
      (significand * otherSignificand : ℕ) * 2 ^ (exponent + otherExponent) := by
    rw [zpow_add₀ two_ne_zero, Nat.cast_mul]
    ring
  have fine : exponent + otherExponent ≤
      unitExponent ((significand * otherSignificand : ℕ) * 2 ^ (exponent + otherExponent)) := by
    apply le_unitExponent
    by_cases low : exponent + otherExponent ≤ -1074
    · exact Or.inl low
    · -- One of the two is normal, and its bits are in the product.
      have large : 2 ^ 52 ≤ significand * otherSignificand := by
        rcases stored.normal with normal | least
        · exact normal.trans (Nat.le_mul_of_pos_right _ otherPositive)
        · have otherNormal := otherStored.normal.resolve_right (by omega)
          exact otherNormal.trans (Nat.le_mul_of_pos_left _ positive)
      refine Or.inr ((two_zpow_add _ 52).trans_le ?_)
      exact mul_le_mul_of_nonneg_right (by exact_mod_cast large) (two_zpow_pos _).le
  rw [number]
  exact roundsTo_roundWithAccuracy .positive (shows_exact _) fine

/-- The quotient of two finite values is rounded once. -/
theorem roundsTo_div {significand otherSignificand : ℕ} {exponent otherExponent : ℤ}
    (positive : 0 < significand) (otherPositive : 0 < otherSignificand) :
    RoundsTo .positive (significand * 2 ^ exponent / (otherSignificand * 2 ^ otherExponent))
      (div Format.binary64 (.finite .positive significand exponent positive)
        (.finite .positive otherSignificand otherExponent otherPositive)) := by
  have otherNumber : (0 : ℚ) < otherSignificand := Nat.cast_pos.mpr otherPositive
  unfold UnpackedFloat.div divCore
  dsimp only
  generalize aim_eq : min (exponent - otherExponent) (Format.binary64.targetExponent
    (totalExponent significand exponent - totalExponent otherSignificand otherExponent)) = aim
  generalize places_eq : (exponent - otherExponent - aim).toNat = places
  have reached : aim + places + otherExponent = exponent := by
    omega
  have number : (significand * 2 ^ exponent / (otherSignificand * 2 ^ otherExponent) : ℚ) =
      (significand <<< places : ℕ) / otherSignificand * 2 ^ aim := by
    rw [Nat.shiftLeft_eq, Nat.cast_mul, ← reached, zpow_add₀ two_ne_zero, two_zpow_add]
    field_simp
  have fine : aim ≤ unitExponent ((significand <<< places : ℕ) / otherSignificand * 2 ^ aim) := by
    rw [← number]
    apply le_unitExponent
    have target : Format.binary64.targetExponent
        (totalExponent significand exponent - totalExponent otherSignificand otherExponent) =
          max (exponent + significand.log2 - (otherExponent + (otherSignificand.log2 + 1)) - 52)
            (-1074) := by
      change max
        ((significand.log2 + 1 + exponent - (otherSignificand.log2 + 1 + otherExponent) : ℤ) - 53)
        (-1074) = _
      omega
    by_cases low : aim ≤ -1074
    · exact Or.inl low
    · refine Or.inr ?_
      have dividend := two_zpow_log2_le exponent positive
      have divisor := le_two_zpow_log2 otherSignificand otherExponent
      rw [le_div_iff₀ (mul_pos otherNumber (two_zpow_pos _))]
      calc (2 : ℚ) ^ (aim + 52) * (otherSignificand * 2 ^ otherExponent)
        _ ≤ 2 ^ (aim + 52) * 2 ^ (otherExponent + (otherSignificand.log2 + 1 : ℕ)) :=
          mul_le_mul_of_nonneg_left divisor (two_zpow_pos _).le
        _ = 2 ^ (aim + 52 + (otherExponent + (otherSignificand.log2 + 1 : ℕ))) :=
          (zpow_add₀ two_ne_zero _ _).symm
        _ ≤ 2 ^ (exponent + significand.log2) := two_zpow_le (by omega)
        _ ≤ significand * 2 ^ exponent := dividend
  rw [number]
  exact roundsTo_roundWithAccuracy .positive (shows_quotient _ _ otherPositive) fine

/-- What is stored of a sum is what the sum stands for, rounded. -/
theorem Stands.storedHeight?_add (stands : Stands value a) (stored : Stored value)
    (otherStands : Stands other b) (otherStored : Stored other) :
    storedHeight? (add Format.binary64 value other) = some (heightOf (a + b)) := by
  cases stands with
  | zero sign =>
    cases otherStands with
    | zero otherSign =>
      rw [add_zero]
      cases sign <;> cases otherSign <;> exact storedHeight?_zero _
    | finite positive =>
      rw [zero_add, ← (Stands.finite positive).height?_eq otherStored]
      exact storedHeight?_of_stored otherStored
    | infinity =>
      rw [add_top]
      exact storedHeight?_infinity
  | finite positive =>
    cases otherStands with
    | zero otherSign =>
      rw [add_zero, ← (Stands.finite positive).height?_eq stored]
      exact storedHeight?_of_stored stored
    | finite otherPositive =>
      rw [← WithTop.coe_add]
      exact (roundsTo_add positive otherPositive).storedHeight?_eq
    | infinity =>
      rw [add_top]
      exact storedHeight?_infinity
  | infinity =>
    rw [top_add]
    cases otherStands <;> exact storedHeight?_infinity

/-- A positive number stands for a finite value. -/
theorem Stands.exists_finite {x : ℚ} (stands : Stands value x) (number : 0 < x) :
    ∃ significand exponent, ∃ positive : 0 < significand,
      value = .finite .positive significand exponent positive ∧ x = significand * 2 ^ exponent := by
  generalize taken : (x : WithTop ℚ) = a at stands
  cases stands with
  | zero sign => exact absurd (WithTop.coe_eq_zero.mp taken) number.ne'
  | finite positive => exact ⟨_, _, positive, rfl, WithTop.coe_injective taken⟩
  | infinity => cases taken

/-- Only infinity stands for infinity. -/
theorem Stands.eq_infinity (stands : Stands value ⊤) : value = .infinity .positive := by
  generalize taken : (⊤ : WithTop ℚ) = a at stands
  cases stands with
  | zero sign => cases taken
  | finite positive => cases taken
  | infinity => rfl

/-- What is stored of a product with a positive number is what the product stands for, rounded. -/
theorem Stands.storedHeight?_mul {x : ℚ} (stands : Stands value a) (stored : Stored value)
    (otherStands : Stands other x) (otherStored : Stored other) (number : 0 < x) :
    storedHeight? (mul Format.binary64 value other) = some (heightOf (a.map (· * x))) := by
  obtain ⟨significand, exponent, positive, rfl, rfl⟩ := otherStands.exists_finite number
  cases stands with
  | zero sign =>
    rw [← WithTop.coe_zero, WithTop.map_coe, zero_mul, WithTop.coe_zero]
    cases sign <;> exact storedHeight?_zero _
  | finite otherPositive =>
    rw [WithTop.map_coe]
    exact (roundsTo_mul stored otherStored otherPositive positive).storedHeight?_eq
  | infinity => exact storedHeight?_infinity

/-- What is stored of a quotient by a positive number is what the quotient stands for, rounded. -/
theorem Stands.storedHeight?_div {x : ℚ} (stands : Stands value a) (otherStands : Stands other x)
    (number : 0 < x) :
    storedHeight? (div Format.binary64 value other) = some (heightOf (a.map (· / x))) := by
  obtain ⟨significand, exponent, positive, rfl, rfl⟩ := otherStands.exists_finite number
  cases stands with
  | zero sign =>
    rw [← WithTop.coe_zero, WithTop.map_coe, zero_div, WithTop.coe_zero]
    cases sign <;> exact storedHeight?_zero _
  | finite otherPositive =>
    rw [WithTop.map_coe]
    exact (roundsTo_div otherPositive positive).storedHeight?_eq
  | infinity => exact storedHeight?_infinity

/-! ## Floats -/

/-- What a float that is not negative stands for. -/
def Amount (x : Float) (a : WithTop ℚ) : Prop :=
  Stands x.toModel.unpack a

variable {x y z w c : Float}

/-- A float is at the height of what it stands for. -/
theorem Amount.floatHeight?_eq (amount : Amount x a) : floatHeight? x = some (heightOf a) :=
  Stands.height?_eq amount (stored_unpack _)

/-- The float zero is at height zero. -/
theorem floatHeight?_zero : floatHeight? 0 = some 0 := by
  decide +kernel

/-- A float that is not below zero. -/
theorem nonneg_iff : 0 ≤ x ↔ ∃ a, Amount x a := by
  rw [le_iff, floatHeight?_zero]
  constructor
  · rintro ⟨_, ⟨⟩, height, high, nonneg⟩
    exact exists_stands (stored_unpack _) high nonneg
  · rintro ⟨a, amount⟩
    refine ⟨0, rfl, heightOf a, amount.floatHeight?_eq, ?_⟩
    rw [← heightOf_zero]
    exact heightOf_le (Stands.nonneg amount)

/-- Floats that are not below zero are ordered as what they stand for. -/
theorem Amount.le_iff (amount : Amount x a) (other : Amount y b) : x ≤ y ↔ a ≤ b := by
  rw [Decimal.le_iff, amount.floatHeight?_eq, other.floatHeight?_eq]
  constructor
  · rintro ⟨_, ⟨⟩, _, ⟨⟩, low⟩
    exact Stands.le_of_heightOf_le amount (stored_unpack _) other (stored_unpack _) low
  · intro less
    exact ⟨_, rfl, _, rfl, heightOf_le less⟩

/-- A sum of floats is at the height of the exact sum. -/
theorem floatHeight?_add (amount : Amount x a) (other : Amount y b) :
    floatHeight? (x + y) = some (heightOf (a + b)) :=
  Stands.storedHeight?_add amount (stored_unpack _) other (stored_unpack _)

/-- A product with a positive number is at the height of the exact product. -/
theorem floatHeight?_mul {q : ℚ} (amount : Amount x a) (factor : Amount c q) (positive : 0 < q) :
    floatHeight? (x * c) = some (heightOf (a.map (· * q))) :=
  Stands.storedHeight?_mul amount (stored_unpack _) factor (stored_unpack _) positive

/-- A quotient by a positive number is at the height of the exact quotient. -/
theorem floatHeight?_div {q : ℚ} (amount : Amount x a) (divisor : Amount c q) (positive : 0 < q) :
    floatHeight? (x / c) = some (heightOf (a.map (· / q))) :=
  Stands.storedHeight?_div amount divisor positive

/-- A positive finite float stands for a positive number. -/
theorem exists_amount_of_finite (positive : 0 < c) (finite : c.isFinite = true) :
    ∃ q : ℚ, 0 < q ∧ Amount c q := by
  obtain ⟨low, lowest, height, high, above⟩ := (lt_iff 0 c).mp positive
  obtain rfl : 0 = low := Option.some.inj (floatHeight?_zero.symm.trans lowest)
  obtain ⟨a, amount⟩ := exists_stands (stored_unpack _) high above.le
  have same : height = heightOf a :=
    Option.some.inj (high.symm.trans (Amount.floatHeight?_eq amount))
  cases a with
  | top =>
    have infinite : c.toModel.unpack = .infinity .positive := Stands.eq_infinity amount
    have unbounded : c.toModel.unpack.isFinite = true := finite
    rw [infinite] at unbounded
    cases unbounded
  | coe q =>
    refine ⟨q, ?_, amount⟩
    refine (WithTop.coe_le_coe.mp amount.nonneg).lt_of_ne ?_
    rintro rfl
    rw [WithTop.coe_zero, heightOf_zero] at same
    omega

/-- Floats at the heights of two numbers are ordered as the numbers. -/
theorem le_of_heights (low : floatHeight? x = some (heightOf a))
    (high : floatHeight? y = some (heightOf b)) (less : a ≤ b) : x ≤ y :=
  (le_iff x y).mpr ⟨_, low, _, high, heightOf_le less⟩

/-- A float at the height of a number that is not negative is not below zero. -/
theorem nonneg_of_height (high : floatHeight? x = some (heightOf a)) (nonneg : 0 ≤ a) : 0 ≤ x := by
  refine le_of_heights ?_ high nonneg
  rw [floatHeight?_zero, heightOf_zero]

/-- A float that stands for a number is finite. -/
theorem isFinite_of_amount {q : ℚ} (amount : Amount x q) : x.isFinite = true := by
  have stands : Stands x.toModel.unpack q := amount
  have meaning : x.isFinite = x.toModel.unpack.isFinite := rfl
  rw [meaning]
  generalize x.toModel.unpack = value at stands
  generalize taken : (q : WithTop ℚ) = a at stands
  cases stands with
  | zero sign => rfl
  | finite positive => rfl
  | infinity => cases taken

/-! ## The order of results -/

/-- Growing operations on numbers leave infinity where it is. -/
theorem map_mono {step : ℚ → ℚ} (grows : Monotone step) (less : a ≤ b) : a.map step ≤ b.map step :=
  grows.withTop_map less

/-- A growing operation that starts from zero keeps numbers from being negative. -/
theorem map_nonneg {step : ℚ → ℚ} (grows : Monotone step) (start : step 0 = 0) (nonneg : 0 ≤ a) :
    0 ≤ a.map step := by
  have mapped := map_mono grows nonneg
  rwa [← WithTop.coe_zero, WithTop.map_coe, start, WithTop.coe_zero] at mapped

/-- Products with a positive number grow. -/
theorem mul_grows {q : ℚ} (positive : 0 < q) : Monotone (· * q) :=
  fun _ _ less => mul_le_mul_of_nonneg_right less positive.le

/-- Quotients by a positive number grow. -/
theorem div_grows {q : ℚ} (positive : 0 < q) : Monotone (· / q) :=
  fun _ _ less => div_le_div_of_nonneg_right less positive.le

/-- A sum of floats that are not below zero is not below zero. -/
theorem zero_le_add (first : 0 ≤ x) (second : 0 ≤ y) : 0 ≤ x + y := by
  obtain ⟨a, amount⟩ := nonneg_iff.mp first
  obtain ⟨b, other⟩ := nonneg_iff.mp second
  exact nonneg_of_height (floatHeight?_add amount other) (add_nonneg amount.nonneg other.nonneg)

/-- Larger summands have no smaller sum. -/
theorem add_le_add_of_nonneg (first : 0 ≤ x) (second : 0 ≤ y) (firstLess : x ≤ z)
    (secondLess : y ≤ w) : x + y ≤ z + w := by
  obtain ⟨a, amount⟩ := nonneg_iff.mp first
  obtain ⟨b, other⟩ := nonneg_iff.mp second
  obtain ⟨a', amount'⟩ := nonneg_iff.mp (le_trans first firstLess)
  obtain ⟨b', other'⟩ := nonneg_iff.mp (le_trans second secondLess)
  refine le_of_heights (floatHeight?_add amount other) (floatHeight?_add amount' other') ?_
  exact add_le_add ((amount.le_iff amount').mp firstLess) ((other.le_iff other').mp secondLess)

section Factor

variable (positive : 0 < c) (finite : c.isFinite = true) (nonneg : 0 ≤ x)
include positive finite nonneg

/-- A product of a float that is not below zero with a positive one is not below zero. -/
theorem zero_le_mul : 0 ≤ x * c := by
  obtain ⟨q, above, factor⟩ := exists_amount_of_finite positive finite
  obtain ⟨a, amount⟩ := nonneg_iff.mp nonneg
  exact nonneg_of_height (floatHeight?_mul amount factor above)
    (map_nonneg (mul_grows above) (zero_mul q) amount.nonneg)

/-- A quotient of a float that is not below zero by a positive one is not below zero. -/
theorem zero_le_div : 0 ≤ x / c := by
  obtain ⟨q, above, divisor⟩ := exists_amount_of_finite positive finite
  obtain ⟨a, amount⟩ := nonneg_iff.mp nonneg
  exact nonneg_of_height (floatHeight?_div amount divisor above)
    (map_nonneg (div_grows above) (zero_div q) amount.nonneg)

/-- A larger float has no smaller product with a positive one. -/
theorem mul_le_mul_of_nonneg (less : x ≤ y) : x * c ≤ y * c := by
  obtain ⟨q, above, factor⟩ := exists_amount_of_finite positive finite
  obtain ⟨a, amount⟩ := nonneg_iff.mp nonneg
  obtain ⟨b, other⟩ := nonneg_iff.mp (le_trans nonneg less)
  refine le_of_heights (floatHeight?_mul amount factor above)
    (floatHeight?_mul other factor above) ?_
  exact map_mono (mul_grows above) ((amount.le_iff other).mp less)

/-- A larger float has no smaller quotient by a positive one. -/
theorem div_le_div_of_nonneg (less : x ≤ y) : x / c ≤ y / c := by
  obtain ⟨q, above, divisor⟩ := exists_amount_of_finite positive finite
  obtain ⟨a, amount⟩ := nonneg_iff.mp nonneg
  obtain ⟨b, other⟩ := nonneg_iff.mp (le_trans nonneg less)
  refine le_of_heights (floatHeight?_div amount divisor above)
    (floatHeight?_div other divisor above) ?_
  exact map_mono (div_grows above) ((amount.le_iff other).mp less)

end Factor

/-- One is a factor that changes nothing. -/
theorem floatHeight?_mul_one (nonneg : 0 ≤ x) : floatHeight? (x * 1) = floatHeight? x := by
  obtain ⟨a, amount⟩ := nonneg_iff.mp nonneg
  have one : Amount 1 (1 : ℚ) := by
    have stands : Stands (.finite .positive (2 ^ 52) (-52) (by decide))
        ((2 ^ 52 : ℕ) * 2 ^ (-52 : ℤ) : ℚ) :=
      .finite (by decide)
    have number : ((2 ^ 52 : ℕ) * 2 ^ (-52 : ℤ) : ℚ) = 1 := by
      norm_num
    rwa [number] at stands
  have identity : a.map (· * (1 : ℚ)) = a := by
    simp only [mul_one]
    exact congrFun WithTop.map_id a
  rw [floatHeight?_mul amount one one_pos, identity, amount.floatHeight?_eq]

/-! ## What is not a number -/

/-- What is not a number is read so from its bits. -/
theorem unpack_eq_of_isNaN (absent : x.isNaN = true) : x.toModel.unpack = .notANumber :=
  UnpackedFloat.isNaN_iff.mp absent

/-- A sum with what is not a number is none. -/
theorem isNaN_add (absent : x.isNaN = true) (y : Float) : (x + y).isNaN = true := by
  have result : floatHeight? (x + y) =
      storedHeight? (add Format.binary64 x.toModel.unpack y.toModel.unpack) :=
    rfl
  rw [Decimal.isNaN_iff, result, unpack_eq_of_isNaN absent]
  exact @storedHeight?_of_stored .notANumber trivial

/-- A product with what is not a number is none. -/
theorem isNaN_mul (absent : x.isNaN = true) (y : Float) : (x * y).isNaN = true := by
  have result : floatHeight? (x * y) =
      storedHeight? (mul Format.binary64 x.toModel.unpack y.toModel.unpack) :=
    rfl
  rw [Decimal.isNaN_iff, result, unpack_eq_of_isNaN absent]
  exact @storedHeight?_of_stored .notANumber trivial

/-- Rounding gives a number, which may be infinity. -/
theorem exists_storedHeight?_round (sign : Sign) {significand : ℕ} (exponent : ℤ)
    (positive : 0 < significand) :
    ∃ height, storedHeight? (UnpackedFloat.round Format.binary64 sign significand exponent) =
      some height :=
  ⟨_, (roundsTo_round sign exponent positive).height?_pack⟩

/-- A difference of significands is rounded to a number, also when it is zero or negative. -/
theorem exists_storedHeight?_normalize (significand exponent : ℤ) :
    ∃ height,
      storedHeight? (UnpackedFloat.normalize Format.binary64 significand exponent .positive) =
      some height := by
  unfold UnpackedFloat.normalize
  cases compared : compare significand 0 with
  | lt =>
    have below := Int.compare_eq_lt.mp compared
    exact exists_storedHeight?_round _ _ (by omega)
  | eq => exact ⟨_, storedHeight?_zero _⟩
  | gt =>
    have above := Int.compare_eq_gt.mp compared
    exact exists_storedHeight?_round _ _ (by omega)

/-- A difference is a number if what is taken off is finite. -/
theorem Stands.exists_storedHeight?_sub {q : ℚ} (stands : Stands value a) (stored : Stored value)
    (otherStands : Stands other q) (otherStored : Stored other) :
    ∃ height, storedHeight? (sub Format.binary64 value other) = some height := by
  generalize taken : (q : WithTop ℚ) = b at otherStands
  cases otherStands with
  | zero otherSign =>
    cases stands with
    | zero sign => cases sign <;> cases otherSign <;> exact ⟨_, storedHeight?_zero _⟩
    | finite positive => exact ⟨_, storedHeight?_of_stored stored⟩
    | infinity => exact ⟨_, storedHeight?_infinity⟩
  | @finite otherSignificand otherExponent otherPositive =>
    cases stands with
    | zero sign =>
      exact ⟨_, @storedHeight?_of_stored
        (.finite .negative otherSignificand otherExponent otherPositive) otherStored⟩
    | finite positive => exact exists_storedHeight?_normalize _ _
    | infinity => exact ⟨_, storedHeight?_infinity⟩
  | infinity => cases taken

/-- A difference of floats is a number if what is taken off is finite. -/
theorem isNaN_sub_eq_false {q : ℚ} (amount : Amount x a) (other : Amount y q) :
    (x - y).isNaN = false := by
  obtain ⟨height, high⟩ :=
    Stands.exists_storedHeight?_sub amount (stored_unpack _) other (stored_unpack _)
  have result : floatHeight? (x - y) = some height := high
  rw [← Bool.not_eq_true, Decimal.isNaN_iff, result]
  exact nofun

/-! ## Ranks -/

/-- The rank of a number is the place of the value that its bits stand for. -/
theorem rank_eq_place (number : x.isNaN = false) : rank x = place x.toModel.unpack := by
  have reads : x.toModel.unpack ≠ .notANumber := by
    intro absent
    have isNaN : x.isNaN = true := UnpackedFloat.isNaN_iff.mpr absent
    rw [isNaN] at number
    cases number
  exact (place_unpack x.toModel.toBits.toBitVec reads).symm

/-- Above zero, a rank is a height. Only one of the zeros has the rank zero. -/
theorem Stands.place_le (stands : Stands value a) (stored : Stored value) :
    place value ≤ heightOf a ∧ (0 < heightOf a → place value = heightOf a) := by
  have high := stands.height?_eq stored
  cases stands with
  | zero sign =>
    rw [heightOf_zero]
    cases sign <;> decide
  | finite positive =>
    have same := Option.some.inj high
    exact ⟨same.le, fun _ => same⟩
  | infinity =>
    have same := Option.some.inj high
    exact ⟨same.le, fun _ => same⟩

/-- Ranks keep the order of floats that are not below zero, up to a positive one. -/
theorem rank_le_rank (nonneg : 0 ≤ x) (within : x ≤ y) (positive : 0 < y) : rank x ≤ rank y := by
  obtain ⟨a, amount⟩ := nonneg_iff.mp nonneg
  obtain ⟨b, other⟩ := nonneg_iff.mp (le_trans nonneg within)
  have heights := heightOf_le ((amount.le_iff other).mp within)
  have low := (Stands.place_le amount (stored_unpack _)).1
  obtain ⟨zero, lowest, height, high, above⟩ := (lt_iff 0 y).mp positive
  rw [floatHeight?_zero] at lowest
  rw [other.floatHeight?_eq] at high
  cases lowest
  cases high
  have same := (Stands.place_le other (stored_unpack _)).2 above
  rw [rank_eq_place (number_of_le_left within), rank_eq_place (number_of_le_right within)]
  exact (low.trans heights).trans_eq same.symm

/-! ## Whole numbers as floats -/

/-- A whole number, as the model converts it. -/
theorem storedHeight?_ofNat (n : ℕ) :
    storedHeight? (UnpackedFloat.ofNat Format.binary64 n) = some (heightOf (n : ℚ)) := by
  unfold UnpackedFloat.ofNat UnpackedFloat.ofInt UnpackedFloat.normalize
  rcases Nat.eq_zero_or_pos n with rfl | positive
  · simp only [Nat.cast_zero, WithTop.coe_zero]
    exact storedHeight?_zero _
  · have above : compare (n : ℤ) 0 = .gt := Int.compare_eq_gt.mpr (by omega)
    have rounds := roundsTo_round .positive 0 positive
    rw [zpow_zero, mul_one] at rounds
    rw [above]
    exact rounds.storedHeight?_eq

/-- A whole number of more than 53 bits, as the model reads it from its digits. -/
theorem storedHeight?_ofScientific {n : ℕ} (positive : 0 < n) :
    storedHeight? (UnpackedFloat.ofScientific Format.binary64 n 0) = some (heightOf (n : ℚ)) := by
  have number : ((n <<< 53 * 10 ^ 0 : ℕ) : ℚ) * 2 ^ (-53 + 0 : ℤ) = n := by
    rw [pow_zero, mul_one, Nat.shiftLeft_eq, Nat.cast_mul, add_zero, mul_assoc]
    norm_num
  have fine : (-53 + 0 : ℤ) ≤ unitExponent ((n <<< 53 * 10 ^ 0 : ℕ) * 2 ^ (-53 + 0 : ℤ)) := by
    rw [number]
    refine le_unitExponent (Or.inr ?_)
    have one : (1 : ℚ) ≤ n := by
      exact_mod_cast positive
    norm_num
    linarith
  have rounds := roundsTo_roundWithAccuracy .positive (shows_exact (n <<< 53 * 10 ^ 0)) fine
  rw [number] at rounds
  rw [← rounds.storedHeight?_eq]
  unfold UnpackedFloat.ofScientific
  rw [dif_neg positive.ne', if_neg (by decide), if_neg ?low, if_pos le_rfl]
  · rfl
  case low =>
    change ¬ (0 : ℤ) < -(2 ^ 11 + (n.log2 : ℤ))
    omega

/-- A whole number is stored rounded. -/
theorem floatHeight?_ofNat (n : ℕ) : floatHeight? (Float.ofNat n) = some (heightOf (n : ℚ)) := by
  by_cases small : n < 2 ^ 53
  · have whole : n.toUInt64.toNat = n := by
      simp
      omega
    have converted : floatHeight? n.toUInt64.toFloat = some (heightOf (n : ℚ)) := by
      have model : floatHeight? n.toUInt64.toFloat = some (heightOf (n.toUInt64.toNat : ℚ)) :=
        storedHeight?_ofNat n.toUInt64.toNat
      rwa [whole] at model
    have scaled : Float.ofNat n = n.toUInt64.toFloat * 1 := by
      have one : Float.ofBits 0x3FF0000000000000 = 1 := by
        decide +kernel
      rw [← one]
      exact dif_pos ⟨small, by decide⟩
    have nonneg : 0 ≤ n.toUInt64.toFloat :=
      nonneg_of_height converted (WithTop.coe_le_coe.mpr (Nat.cast_nonneg n))
    rw [scaled, floatHeight?_mul_one nonneg, converted]
  · have positive : 0 < n := by
      omega
    have scientific : Float.ofNat n = Float.ofModel (Float.Model.ofScientific n 0) :=
      dif_neg fun fast => small fast.1
    rw [scientific]
    exact storedHeight?_ofScientific positive

/-- A power of two is the first number of its unit, and is stored as it is. -/
theorem heightOf_two_pow {places : ℕ} (small : places ≤ 1023) :
    heightOf ((2 ^ places : ℕ) : ℚ) = (places + 1023) * 2 ^ 52 := by
  have stored : StoredFinite (2 ^ 52) (places - 52) := by
    constructor <;> omega
  have number : ((2 ^ 52 : ℕ) : ℚ) * 2 ^ (places - 52 : ℤ) = (2 ^ places : ℕ) := by
    rw [← two_zpow_add, Nat.cast_ofNat, sub_add_cancel, zpow_natCast, Nat.cast_pow, Nat.cast_ofNat]
  rw [heightOf_coe, ← number, nearestHeight_stored stored, magnitude]
  omega

/-- Positive whole numbers lie above zero. -/
theorem heightOf_pos {n : ℕ} (positive : 0 < n) : 0 < heightOf (n : ℚ) := by
  have one : ((2 ^ 0 : ℕ) : ℚ) ≤ n := by
    exact_mod_cast positive
  have above := heightOf_le (WithTop.coe_le_coe.mpr one)
  rw [heightOf_two_pow (Nat.zero_le _)] at above
  omega

/-- Whole numbers up to `2 ^ 64` lie below infinity. -/
theorem heightOf_lt_infinity {n : ℕ} (small : n ≤ 2 ^ 64) : heightOf (n : ℚ) < 2047 * 2 ^ 52 := by
  have below : heightOf (n : ℚ) ≤ heightOf ((2 ^ 64 : ℕ) : ℚ) :=
    heightOf_le (WithTop.coe_le_coe.mpr (Nat.cast_le.mpr small))
  rw [heightOf_two_pow (by decide)] at below
  omega

/-- A whole number is not below zero as a float. -/
theorem ofNat_nonneg (n : ℕ) : 0 ≤ Float.ofNat n :=
  nonneg_of_height (floatHeight?_ofNat n) (WithTop.coe_le_coe.mpr (Nat.cast_nonneg n))

/-- The floats of whole numbers are ordered as these. -/
theorem ofNat_le_ofNat {n m : ℕ} (less : n ≤ m) : Float.ofNat n ≤ Float.ofNat m :=
  le_of_heights (floatHeight?_ofNat n) (floatHeight?_ofNat m)
    (WithTop.coe_le_coe.mpr (Nat.cast_le.mpr less))

/-- A positive whole number is above zero as a float. -/
theorem ofNat_pos {n : ℕ} (positive : 0 < n) : 0 < Float.ofNat n :=
  (lt_iff _ _).mpr ⟨0, floatHeight?_zero, _, floatHeight?_ofNat n, heightOf_pos positive⟩

/-- Whole numbers up to `2 ^ 64` stand for numbers. -/
theorem exists_amount_ofNat {n : ℕ} (small : n ≤ 2 ^ 64) : ∃ q : ℚ, Amount (Float.ofNat n) q := by
  obtain ⟨a, amount⟩ := nonneg_iff.mp (ofNat_nonneg n)
  have heights : heightOf (n : ℚ) = heightOf a :=
    Option.some.inj ((floatHeight?_ofNat n).symm.trans amount.floatHeight?_eq)
  cases a with
  | top =>
    have below := heightOf_lt_infinity small
    rw [heights] at below
    exact absurd below (lt_irrefl _)
  | coe q => exact ⟨q, amount⟩

/-- Whole numbers up to `2 ^ 64` are finite as floats. -/
theorem ofNat_isFinite {n : ℕ} (small : n ≤ 2 ^ 64) : (Float.ofNat n).isFinite = true := by
  obtain ⟨q, amount⟩ := exists_amount_ofNat small
  exact isFinite_of_amount amount

end ReleaseFinder.Decimal
