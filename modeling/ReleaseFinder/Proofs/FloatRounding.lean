import ReleaseFinder.Proofs.NearestFloat

/-!
# Rounding in the model of floats

The model of floats computes exact results with significands of any length and rounds them at the
end. When it cuts bits off a significand it keeps two in their place: whether half of the last unit
was reached, and whether anything else was cut off. What the two bits say of the number survives
every further shift, so they are right where the significand is rounded at last.

The model aims at the unit of the number. So what it stores has the nearest height, or that of
infinity if the number is beyond all floats.
-/

namespace ReleaseFinder.Decimal

open Float.Model UnpackedFloat

/-! ## What has been cut off -/

/-- A number lies in the unit after a significand. One bit tells whether half of the unit is
reached, the other one whether the number is neither at the start of the unit nor at its half. -/
structure Shows (cut : ExtendedMantissa) (x : ℚ) : Prop where
  above : (cut.mantissa : ℚ) ≤ x
  below : x < cut.mantissa + 1
  half : cut.roundBit = true ↔ cut.mantissa + 1 / 2 ≤ x
  rest : cut.stickyBit = true ↔ x ≠ cut.mantissa ∧ x ≠ cut.mantissa + 1 / 2

variable {cut : ExtendedMantissa} {x : ℚ}

/-- The two bits are enough to round the number. -/
theorem Shows.roundedMantissa (shown : Shows cut x) : cut.roundedMantissa = nearestEven x := by
  obtain ⟨above, below, half, rest⟩ := shown
  have floor : ⌊x⌋₊ = cut.mantissa :=
    (Nat.floor_eq_iff ((Nat.cast_nonneg _).trans above)).mpr ⟨above, below⟩
  rw [nearestEven, floor]
  obtain ⟨significand, _ | _, _ | _⟩ := cut
  case false.false =>
    have whole : x = significand := by
      by_contra apart
      have offMiddle : x ≠ significand + 1 / 2 := fun same => Bool.false_ne_true (half.mpr same.ge)
      exact Bool.false_ne_true (rest.mpr ⟨apart, offMiddle⟩)
    rw [whole, sub_self, if_pos (by norm_num)]
    rfl
  case false.true =>
    have low : x < significand + 1 / 2 := not_le.mp (mt half.mpr Bool.false_ne_true)
    rw [if_pos (by linarith)]
    rfl
  case true.false =>
    have middle : x = significand + 1 / 2 := by
      by_contra apart
      have reached := half.mp rfl
      have offStart : x ≠ significand := by
        intro same
        linarith
      exact Bool.false_ne_true (rest.mpr ⟨offStart, apart⟩)
    rw [if_neg (by linarith), if_neg (by linarith)]
    rfl
  case true.true =>
    have high : significand + 1 / 2 < x := (half.mp rfl).lt_of_ne (rest.mp rfl).2.symm
    rw [if_neg (by linarith), if_pos (by linarith)]
    rfl

/-- A shift by one bit halves the number. The last bit of the significand then tells about the half,
and the two bits together about the rest. -/
theorem Shows.shiftRightOne (shown : Shows cut x) : Shows cut.shiftRightOne (x / 2) := by
  obtain ⟨above, below, half, rest⟩ := shown
  have parts : (cut.mantissa : ℚ) = 2 * (cut.mantissa / 2 : ℕ) + (cut.mantissa % 2 : ℕ) := by
    exact_mod_cast (Nat.div_add_mod cut.mantissa 2).symm
  have inexact : (cut.roundBit || cut.stickyBit) = true ↔ x ≠ cut.mantissa := by
    rw [Bool.or_eq_true, half, rest]
    constructor
    · rintro (reached | ⟨apart, _⟩)
      · intro same
        linarith
      · exact apart
    · intro apart
      by_cases middle : x = cut.mantissa + 1 / 2
      · exact Or.inl middle.ge
      · exact Or.inr ⟨apart, middle⟩
  have lastBit := Nat.mod_two_eq_zero_or_one cut.mantissa
  rcases lastBit with even | odd
  · rw [even, Nat.cast_zero, add_zero] at parts
    refine ⟨?_, ?_, ?_, inexact.trans ?_⟩ <;> simp only [ExtendedMantissa.shiftRightOne, even]
    · linarith
    · linarith
    · refine iff_of_false Bool.false_ne_true ?_
      linarith
    · constructor
      · intro apart
        exact ⟨fun same => apart (by linarith), fun same => by linarith⟩
      · rintro ⟨apart, _⟩ same
        exact apart (by linarith)
  · rw [odd, Nat.cast_one] at parts
    refine ⟨?_, ?_, ?_, inexact.trans ?_⟩ <;> simp only [ExtendedMantissa.shiftRightOne, odd]
    · linarith
    · linarith
    · refine iff_of_true rfl ?_
      linarith
    · constructor
      · intro apart
        exact ⟨fun same => by linarith, fun same => apart (by linarith)⟩
      · rintro ⟨_, apart⟩ same
        exact apart (by linarith)

/-- A shift by some bits divides the number by that power of two. -/
theorem Shows.shiftRight (shown : Shows cut x) (places : ℕ) :
    Shows (cut >>> places) (x / 2 ^ places) := by
  change Shows (places.repeat ExtendedMantissa.shiftRightOne cut) _
  induction places with
  | zero =>
    rw [pow_zero, div_one]
    exact shown
  | succ places inductionHypothesis =>
    rw [Nat.repeat, pow_succ, ← div_div]
    exact inductionHypothesis.shiftRightOne

/-- A whole number with nothing cut off. -/
theorem shows_exact (significand : ℕ) :
    Shows (ExtendedMantissa.ofMantissaAndAccuracy significand .exact) significand := by
  refine ⟨?_, ?_, ?_, ?_⟩ <;> simp [ExtendedMantissa.ofMantissaAndAccuracy]

/-- The quotient of whole numbers, from their quotient without the rest and what the rest tells. -/
theorem shows_quotient (numerator denominator : ℕ) (positive : 0 < denominator) :
    Shows (ExtendedMantissa.ofMantissaAndAccuracy (numerator / denominator)
      (accuracyOfFraction (numerator % denominator) denominator)) (numerator / denominator) := by
  have denominatorPositive : (0 : ℚ) < denominator := Nat.cast_pos.mpr positive
  have parts : (numerator : ℚ) / denominator =
      (numerator / denominator : ℕ) + ((numerator % denominator : ℕ) : ℚ) / denominator := by
    rw [div_eq_iff denominatorPositive.ne', add_mul, div_mul_cancel₀ _ denominatorPositive.ne']
    exact_mod_cast (Nat.div_add_mod' numerator denominator).symm
  have small := Nat.mod_lt numerator positive
  rw [parts]
  generalize numerator / denominator = whole
  generalize numerator % denominator = rest at *
  rw [accuracyOfFraction]
  split_ifs with exact
  · subst exact
    simpa using shows_exact whole
  · have above : (0 : ℚ) < rest / denominator :=
      div_pos (Nat.cast_pos.mpr (Nat.pos_of_ne_zero exact)) denominatorPositive
    have below : (rest : ℚ) / denominator < 1 := by
      rw [div_lt_one denominatorPositive]
      exact_mod_cast small
    cases compared : compare (2 * rest) denominator with
    | lt =>
      have low : (rest : ℚ) / denominator < 1 / 2 := by
        rw [div_lt_div_iff₀ denominatorPositive two_pos, one_mul, mul_comm]
        exact_mod_cast Nat.compare_eq_lt.mp compared
      refine ⟨?_, ?_, iff_of_false Bool.false_ne_true ?_, iff_of_true rfl ⟨?_, ?_⟩⟩ <;>
        simp only [ExtendedMantissa.ofMantissaAndAccuracy] <;> try intro same
      all_goals linarith
    | eq =>
      have middle : (rest : ℚ) / denominator = 1 / 2 := by
        rw [div_eq_div_iff denominatorPositive.ne' two_ne_zero, one_mul, mul_comm]
        exact_mod_cast Nat.compare_eq_eq.mp compared
      rw [middle]
      refine ⟨?_, ?_, iff_of_true rfl le_rfl,
        iff_of_false Bool.false_ne_true fun apart => apart.2 rfl⟩ <;>
        simp only [ExtendedMantissa.ofMantissaAndAccuracy] <;> linarith
    | gt =>
      have high : 1 / 2 < (rest : ℚ) / denominator := by
        rw [div_lt_div_iff₀ two_pos denominatorPositive, one_mul, mul_comm (rest : ℚ)]
        exact_mod_cast Nat.compare_eq_gt.mp compared
      refine ⟨?_, ?_, iff_of_true rfl ?_, iff_of_true rfl ⟨?_, ?_⟩⟩ <;>
        simp only [ExtendedMantissa.ofMantissaAndAccuracy] <;> try intro same
      all_goals linarith

/-! ## Rounding in the model -/

/-- The exponent that the model aims at. -/
theorem targetExponent_eq (significand : ℕ) (exponent : ℤ) :
    Format.binary64.targetExponent (totalExponent significand exponent) =
      max (significand.log2 + exponent - 52) (-1074) := by
  change max ((significand.log2 + 1 + exponent : ℤ) - 53) (-1074) = _
  omega

/-- An exponent does not lie above the unit of a number if the number has 53 bits in it. -/
theorem le_unitExponent {x : ℚ} {exponent : ℤ}
    (fine : exponent ≤ -1074 ∨ (2 : ℚ) ^ (exponent + 52) ≤ x) : exponent ≤ unitExponent x := by
  obtain ⟨least, -, below⟩ := unitExponent_spec x
  rcases fine with low | reached
  · omega
  · by_contra above
    have crossed : (2 : ℚ) ^ (unitExponent x + 53) ≤ 2 ^ (exponent + 52) := two_zpow_le (by omega)
    linarith

/-- The number of bits of a significand bounds its multiples from below. -/
theorem two_zpow_log2_le {significand : ℕ} (exponent : ℤ) (positive : 0 < significand) :
    (2 : ℚ) ^ (exponent + significand.log2) ≤ significand * 2 ^ exponent := by
  have bits : ((2 ^ significand.log2 : ℕ) : ℚ) ≤ significand := by
    exact_mod_cast Nat.log2_self_le positive.ne'
  rw [two_zpow_add]
  exact mul_le_mul_of_nonneg_right bits (two_zpow_pos exponent).le

/-- The number of bits of a significand bounds its multiples from above. -/
theorem le_two_zpow_log2 (significand : ℕ) (exponent : ℤ) :
    (significand : ℚ) * 2 ^ exponent ≤ 2 ^ (exponent + (significand.log2 + 1 : ℕ)) := by
  have bits : (significand : ℚ) ≤ (2 ^ (significand.log2 + 1) : ℕ) := by
    exact_mod_cast Nat.lt_log2_self.le
  rw [two_zpow_add]
  exact mul_le_mul_of_nonneg_right bits (two_zpow_pos exponent).le

/-- The mantissa is the significand that it was made of. -/
theorem mantissa_ofMantissaAndAccuracy (significand : ℕ) (accuracy : Accuracy) :
    (ExtendedMantissa.ofMantissaAndAccuracy significand accuracy).mantissa = significand := by
  rcases accuracy with _ | ⟨_ | _ | _⟩ <;> rfl

/-- The model aims at the unit of the number, as far as this needs a shift. -/
theorem max_targetExponent {accuracy : Accuracy} {significand : ℕ} {exponent : ℤ}
    (shown : Shows (ExtendedMantissa.ofMantissaAndAccuracy significand accuracy) x)
    (fine : exponent ≤ unitExponent (x * 2 ^ exponent)) :
    max exponent (Format.binary64.targetExponent (totalExponent significand exponent)) =
      unitExponent (x * 2 ^ exponent) := by
  have above := shown.above
  have below := shown.below
  rw [mantissa_ofMantissaAndAccuracy] at above below
  have unitPositive := two_zpow_pos exponent
  rw [targetExponent_eq]
  rcases Nat.eq_zero_or_pos significand with rfl | positive
  · -- Less than one is shown, so the unit of the number is the least one.
    obtain ⟨least, reached, -⟩ := unitExponent_spec (x * 2 ^ exponent)
    have small : x * 2 ^ exponent < 2 ^ exponent := by
      rw [Nat.cast_zero, zero_add] at below
      exact mul_lt_of_lt_one_left unitPositive below
    have crossed : (2 : ℚ) ^ exponent ≤ 2 ^ (unitExponent (x * 2 ^ exponent) + 52) :=
      two_zpow_le (by omega)
    have lowest := reached.resolve_right fun reached => by linarith
    rw [Nat.log2_zero]
    omega
  · have unit :
        UnitExponent (x * 2 ^ exponent) (max (significand.log2 + exponent - 52) (-1074)) := by
      refine ⟨le_max_right _ _, ?_, ?_⟩
      · rcases le_total (significand.log2 + exponent - 52) (-1074) with low | high
        · exact Or.inl (max_eq_right low)
        · refine Or.inr ?_
          rw [max_eq_left high, sub_add_cancel, add_comm]
          exact (two_zpow_log2_le exponent positive).trans
            (mul_le_mul_of_nonneg_right above unitPositive.le)
      · have bits : (significand : ℚ) + 1 ≤ (2 ^ (significand.log2 + 1) : ℕ) := by
          exact_mod_cast Nat.lt_log2_self
        calc x * 2 ^ exponent
          _ < (2 ^ (significand.log2 + 1) : ℕ) * 2 ^ exponent :=
            mul_lt_mul_of_pos_right (below.trans_le bits) unitPositive
          _ = 2 ^ (exponent + (significand.log2 + 1 : ℕ)) := (two_zpow_add _ _).symm
          _ ≤ 2 ^ (max (significand.log2 + exponent - 52) (-1074) + 53) := two_zpow_le (by omega)
    rw [unit.eq] at fine ⊢
    omega

/-- The first shift puts a number into its unit. -/
theorem Shows.shiftToTargetExponent {accuracy : Accuracy} {significand : ℕ} {exponent : ℤ}
    (shown : Shows (ExtendedMantissa.ofMantissaAndAccuracy significand accuracy) x)
    (fine : exponent ≤ unitExponent (x * 2 ^ exponent)) :
    ∃ cut, shiftToTargetExponent Format.binary64 significand exponent accuracy =
        (cut, unitExponent (x * 2 ^ exponent)) ∧
      Shows cut (x * 2 ^ exponent / 2 ^ unitExponent (x * 2 ^ exponent)) := by
  have aim := max_targetExponent shown fine
  unfold UnpackedFloat.shiftToTargetExponent shiftToExponent
  dsimp only
  generalize target_eq :
    Format.binary64.targetExponent (totalExponent significand exponent) = target at *
  generalize places_eq : (target - exponent).toNat = places
  have reached : exponent + places = unitExponent (x * 2 ^ exponent) := by
    omega
  have number : x / 2 ^ places = x * 2 ^ exponent / 2 ^ unitExponent (x * 2 ^ exponent) := by
    rw [← reached, two_zpow_add, mul_div_mul_right _ _ (two_zpow_pos exponent).ne', Nat.cast_pow,
      Nat.cast_ofNat]
  refine ⟨_, by rw [reached], ?_⟩
  rw [← number]
  exact shown.shiftRight places

/-- A rounded significand is in its unit already, unless it has become the next power of two. -/
theorem shiftToTargetExponent_rounded {n : ℕ} {exponent : ℤ} (least : -1074 ≤ exponent)
    (bounded : n ≤ 2 ^ 53) (normal : exponent = -1074 ∨ 2 ^ 52 ≤ n) :
    shiftToTargetExponent Format.binary64 n exponent .exact =
      if n < 2 ^ 53 then (⟨n, false, false⟩, exponent)
        else (⟨2 ^ 52, false, false⟩, exponent + 1) := by
  unfold shiftToTargetExponent shiftToExponent
  rw [targetExponent_eq]
  split_ifs with inside
  · have small : n.log2 ≤ 52 := by
      rcases Nat.eq_zero_or_pos n with rfl | positive
      · decide
      · exact Nat.le_of_lt_succ ((Nat.log2_lt positive.ne').mpr inside)
    have target : (max (n.log2 + exponent - 52) (-1074) - exponent).toNat = 0 := by
      have large (reached : 2 ^ 52 ≤ n) : 52 ≤ n.log2 := (Nat.le_log2 (by omega)).mpr reached
      omega
    simp only [target, Nat.cast_zero, add_zero]
    rfl
  · obtain rfl : n = 2 ^ 53 := by omega
    have target : (max ((2 ^ 53 : ℕ).log2 + exponent - 52) (-1074) - exponent).toNat = 1 := by
      rw [Nat.log2_two_pow]
      omega
    simp only [target]
    rfl

/-- What a number is rounded to before it is found to be too large: zero, or a significand of its
unit. -/
inductive RoundsTo (sign : Sign) (x : ℚ) : UnpackedFloat → Prop where
  | zero (height : nearestHeight x = 0) : RoundsTo sign x (.zero sign)
  | finite {significand : ℕ} {exponent : ℤ} (positive : 0 < significand)
      (bounded : significand < 2 ^ 53) (least : -1074 ≤ exponent)
      (normal : 2 ^ 52 ≤ significand ∨ exponent = -1074)
      (height : nearestHeight x = magnitude significand exponent) :
      RoundsTo sign x (.finite sign significand exponent positive)

/-- A significand of at most 53 bits in its unit is what its height says. -/
theorem roundsTo_cut (sign : Sign) {exponent : ℤ}
    (height : nearestHeight x = (exponent + 1074) * 2 ^ 52 + cut.mantissa)
    (bounded : cut.mantissa < 2 ^ 53) (least : -1074 ≤ exponent)
    (normal : exponent = -1074 ∨ 2 ^ 52 ≤ cut.mantissa) :
    RoundsTo sign x (if zero : cut.mantissa = 0 then .zero sign
      else .finite sign cut.mantissa exponent (Nat.pos_of_ne_zero zero)) := by
  split_ifs with zero
  · refine .zero ?_
    omega
  · refine .finite (Nat.pos_of_ne_zero zero) bounded least normal.symm ?_
    rw [height, magnitude]

/-- The model rounds a number, given with its exponent by what it shows, to the nearest height. -/
theorem roundsTo_roundWithAccuracy (sign : Sign) {accuracy : Accuracy} {significand : ℕ}
    {exponent : ℤ} (shown : Shows (ExtendedMantissa.ofMantissaAndAccuracy significand accuracy) x)
    (fine : exponent ≤ unitExponent (x * 2 ^ exponent)) :
    RoundsTo sign (x * 2 ^ exponent)
      (roundWithAccuracy Format.binary64 sign significand exponent accuracy) := by
  obtain ⟨cut, shifted, cutShown⟩ := shown.shiftToTargetExponent fine
  obtain ⟨bounded, normal⟩ := (unitExponent_spec (x * 2 ^ exponent)).nearestEven
  have least := (unitExponent_spec (x * 2 ^ exponent)).least
  have final := shiftToTargetExponent_rounded least bounded normal
  have height := nearestHeight.eq_1 (x * 2 ^ exponent)
  unfold roundWithAccuracy
  simp only [shifted, cutShown.roundedMantissa]
  split_ifs at final with inside
  · refine roundsTo_cut sign ?_ ?_ ?_ ?_ <;> rw [final]
    · exact height
    · exact inside
    · exact least
    · exact normal
  · refine roundsTo_cut sign ?_ ?_ ?_ ?_ <;> rw [final]
    · rw [height]
      dsimp only
      omega
    · norm_num
    · dsimp only
      omega
    · exact Or.inr le_rfl

/-- A shift to the left leaves the number as it is. -/
theorem decreaseExponent_eq (significand : ℕ) (exponent aim : ℤ) :
    (decreaseExponent significand exponent aim).2 = min exponent aim ∧
      ((decreaseExponent significand exponent aim).1 : ℚ) * 2 ^ min exponent aim =
        significand * 2 ^ exponent := by
  have places : min exponent aim + (exponent - aim).toNat = exponent := by
    omega
  unfold decreaseExponent
  dsimp only
  refine ⟨by omega, ?_⟩
  rw [Nat.shiftLeft_eq, Nat.cast_mul, mul_assoc, ← two_zpow_add, places]

/-- A whole number of powers of two is rounded to its nearest height. -/
theorem roundsTo_round (sign : Sign) {significand : ℕ} (exponent : ℤ) (positive : 0 < significand) :
    RoundsTo sign (significand * 2 ^ exponent)
      (UnpackedFloat.round Format.binary64 sign significand exponent) := by
  have target := targetExponent_eq significand exponent
  unfold UnpackedFloat.round
  dsimp only
  generalize Format.binary64.targetExponent (totalExponent significand exponent) = aim at *
  obtain ⟨aimed, number⟩ := decreaseExponent_eq significand exponent aim
  have fine : min exponent aim ≤ unitExponent (significand * 2 ^ exponent) := by
    apply le_unitExponent
    by_cases low : aim = -1074
    · omega
    · have reached : min exponent aim + 52 ≤ exponent + significand.log2 := by
        omega
      exact Or.inr ((two_zpow_le reached).trans (two_zpow_log2_le exponent positive))
  rw [aimed, ← number]
  rw [← number] at fine
  exact roundsTo_roundWithAccuracy sign (shows_exact _) fine

/-! ## Storing what was rounded -/

/-- Infinity is read as it is stored, with its sign. -/
theorem unpack_packedInfinity (sign : Sign) :
    UnpackedFloat.unpack Format.binary64 (packedInfinity Format.binary64 sign) =
      .infinity sign := by
  simp [UnpackedFloat.unpack, packedInfinity, -BitVec.reduceNeg]

/-- An exponent field between the two special ones and a fraction are read as a normal value. -/
theorem unpack_normal (sign : Sign) {field significand : ℕ} (above : 0 < field)
    (below : field < 2047) (normal : 2 ^ 52 ≤ significand) (bounded : significand < 2 ^ 53)
    (positive : 0 < significand) :
    UnpackedFloat.unpack Format.binary64
        (packComponents Format.binary64 sign (BitVec.ofNat 11 field)
          (BitVec.ofNat 52 significand)) =
      .finite sign significand (field - 1075) positive := by
  have fieldNat : (BitVec.ofNat 11 field).toNat = field := by
    rw [BitVec.toNat_ofNat]
    omega
  have notFull : ¬ BitVec.ofNat 11 field = -1#11 := by
    rw [← BitVec.toNat_inj, fieldNat]
    exact below.ne
  have notLeast : ¬ BitVec.ofNat 11 field = 0#11 := by
    rw [← BitVec.toNat_inj, fieldNat]
    exact above.ne'
  have leading : (1#1 ++ BitVec.ofNat 52 significand).toNat = significand := by
    have fraction := (BitVec.ofNat 52 significand).isLt
    rw [BitVec.toNat_append, ← Nat.shiftLeft_add_eq_or_of_lt fraction, BitVec.toNat_ofNat]
    change 2 ^ 52 + significand % 2 ^ 52 = significand
    omega
  unfold UnpackedFloat.unpack
  simp only [unpackSign_packComponents, unpackExponent_packComponents,
    unpackMantissa_packComponents, Sign.ofBitVec_toBitVec, if_neg notFull, if_neg notLeast,
    fieldNat, leading]
  rfl

/-- The least exponent field and a fraction are read as a value below the normal ones. -/
theorem unpack_subnormal (sign : Sign) {significand : ℕ} (bounded : significand < 2 ^ 52)
    (positive : 0 < significand) :
    UnpackedFloat.unpack Format.binary64
        (packComponents Format.binary64 sign 0 (BitVec.ofNat 52 significand)) =
      .finite sign significand (-1074) positive := by
  have fraction : (BitVec.ofNat 52 significand).toNat = significand := by
    rw [BitVec.toNat_ofNat]
    exact Nat.mod_eq_of_lt bounded
  have notBare : ¬ BitVec.ofNat 52 significand = 0#52 := by
    rw [← BitVec.toNat_inj, fraction]
    exact positive.ne'
  have notFull : ¬ (0 : BitVec 11) = -1#11 := by
    decide
  unfold UnpackedFloat.unpack
  simp only [unpackSign_packComponents, unpackExponent_packComponents,
    unpackMantissa_packComponents, Sign.ofBitVec_toBitVec, if_neg notFull, dif_neg notBare,
    fraction]
  rfl

/-- A finite value that can be stored is read as it was packed. -/
theorem unpack_pack_finite (sign : Sign) {significand : ℕ} {exponent : ℤ}
    (positive : 0 < significand) (stored : StoredFinite significand exponent) :
    UnpackedFloat.unpack Format.binary64
        (UnpackedFloat.pack Format.binary64 (.finite sign significand exponent positive)) =
      .finite sign significand exponent positive := by
  obtain ⟨-, bounded, least, greatest, normal⟩ := stored
  have fits : ¬ 2 ^ 11 ≤ (exponent + 1023 + 52).toNat + 1 := by
    omega
  by_cases isNormal : 2 ^ 52 ≤ significand
  · have bits : significand.log2 + 1 = 53 := by
      have below := (Nat.log2_lt positive.ne').mpr bounded
      have above := (Nat.le_log2 positive.ne').mpr isNormal
      omega
    have packed : UnpackedFloat.pack Format.binary64 (.finite sign significand exponent positive) =
        packComponents Format.binary64 sign (BitVec.ofNat 11 (exponent + 1023 + 52).toNat)
          (BitVec.ofNat 52 significand) := by
      rw [UnpackedFloat.pack]
      exact (if_neg fits).trans (if_pos bits)
    have exponentRead : (((exponent + 1023 + 52).toNat : ℕ) : ℤ) - 1075 = exponent := by
      omega
    rw [packed, unpack_normal sign (by omega) (by omega) isNormal bounded positive]
    simp only [exponentRead]
  · obtain rfl : exponent = -1074 := normal.resolve_left isNormal
    have bits : ¬ significand.log2 + 1 = 53 := by
      have below := (Nat.log2_lt positive.ne').mpr (not_le.mp isNormal)
      omega
    have packed : UnpackedFloat.pack Format.binary64 (.finite sign significand (-1074) positive) =
        packComponents Format.binary64 sign 0 (BitVec.ofNat 52 significand) := by
      rw [UnpackedFloat.pack]
      exact (if_neg fits).trans (if_neg bits)
    rw [packed, unpack_subnormal sign (not_le.mp isNormal) positive]

/-- Stored, a rounded number has the nearest height, or that of infinity if it is not below it. -/
theorem RoundsTo.height?_pack {sign : Sign} {rounded : UnpackedFloat}
    (rounds : RoundsTo sign x rounded) :
    height? (UnpackedFloat.unpack Format.binary64 (UnpackedFloat.pack Format.binary64 rounded)) =
      some (sign.apply (min (nearestHeight x) (2047 * 2 ^ 52))) := by
  cases rounds with
  | zero height =>
    rw [height, UnpackedFloat.pack, unpack_packedZero]
    cases sign <;> rfl
  | @finite significand exponent positive bounded least normal height =>
    rw [height]
    rcases le_or_gt exponent 971 with small | large
    · have stored : StoredFinite significand exponent := ⟨positive, bounded, least, small, normal⟩
      rw [unpack_pack_finite sign positive stored, min_eq_left (magnitude_bounds stored).2.le,
        height?]
    · have infinite : UnpackedFloat.pack Format.binary64
        (.finite sign significand exponent positive) =
          packedInfinity Format.binary64 sign := by
        rw [UnpackedFloat.pack]
        refine if_pos ?_
        change 2 ^ 11 ≤ (exponent + 1023 + 52).toNat + 1
        omega
      have beyond : 2047 * 2 ^ 52 ≤ magnitude significand exponent := by
        unfold magnitude
        omega
      rw [infinite, unpack_packedInfinity, min_eq_right beyond, height?]

end ReleaseFinder.Decimal
