import Mathlib
import ReleaseFinder.Decimal.Binary

/-!
# The total order of floats

Scores are sorted by the rank of their stored bits. The rank refines the order of numbers: a float
that is less than another has the lower rank. The order of numbers says nothing of the two zeros,
nor of the stored value that is not a number; the rank places them too.

Stored bits are read as a sign with an infinity, a zero, or a significand and an exponent. The place
of such a value is computed from the reading alone. It agrees with the rank because the fields of
the bits are the exponent and the significand without its leading bit.
-/

namespace ReleaseFinder.Decimal

open Float.Model

/-- A finite value without its sign, as the number of stored values from zero up to it. -/
def magnitude (significand : Nat) (exponent : Int) : Int :=
  (exponent + 1074) * 2 ^ 52 + significand

/-- What is stored of a finite value. Normal significands have 53 bits, and only the least exponent
has smaller ones. -/
structure StoredFinite (significand : Nat) (exponent : Int) : Prop where
  positive : 0 < significand
  bounded : significand < 2 ^ 53
  least : -1074 ≤ exponent
  greatest : exponent ≤ 971
  normal : 2 ^ 52 ≤ significand ∨ exponent = -1074

/-- The value can be stored as it is. -/
def Stored : UnpackedFloat → Prop
  | .finite _ significand exponent _ => StoredFinite significand exponent
  | _ => True

/-- Positive values are counted upwards from zero, negative ones downwards from minus one. -/
def signed : UnpackedFloat.Sign → Int → Int
  | .positive, size => size
  | .negative, size => -size - 1

/-- The place of a value among the stored ones. -/
def place : UnpackedFloat → Int
  | .notANumber => 0
  | .infinity sign => signed sign (2047 * 2 ^ 52)
  | .zero sign => signed sign 0
  | .finite sign significand exponent _ => signed sign (magnitude significand exponent)

/-- Magnitudes lie strictly between zero and infinity. -/
theorem magnitude_bounds {significand : Nat} {exponent : Int}
    (stored : StoredFinite significand exponent) :
    0 < magnitude significand exponent ∧ magnitude significand exponent < 2047 * 2 ^ 52 := by
  obtain ⟨positive, bounded, least, greatest, normal⟩ := stored
  unfold magnitude
  omega

/-- Magnitudes are ordered by the exponents and then by the significands. A larger exponent has a
normal significand, and that makes up for any significand of the smaller one. -/
theorem magnitude_lt {significand other : Nat} {exponent otherExponent : Int}
    (stored : StoredFinite significand exponent) (otherStored : StoredFinite other otherExponent)
    (less : (compare exponent otherExponent).then (compare significand other) = .lt) :
    magnitude significand exponent < magnitude other otherExponent := by
  rw [Ordering.then_eq_lt, Int.compare_eq_lt, Int.compare_eq_eq, Nat.compare_eq_lt] at less
  obtain ⟨_, bounded, least, _, normal⟩ := stored
  obtain ⟨_, otherBounded, otherLeast, _, otherNormal⟩ := otherStored
  unfold magnitude
  omega

/-- A value that is less than another has the lower place. Only two finite values of one sign have
to be compared; signs, zeros and infinities lie apart. -/
theorem place_lt_of_compare (first second : UnpackedFloat) (firstStored : Stored first)
    (secondStored : Stored second) (less : first.compare second = some .lt) :
    place first < place second := by
  rcases first with ⟨_ | _⟩ | _ | ⟨_ | _⟩ | ⟨_ | _, significand, exponent, positive⟩ <;>
    rcases second with ⟨_ | _⟩ | _ | ⟨_ | _⟩ | ⟨_ | _, other, otherExponent, otherPositive⟩
  case finite.positive.finite.positive =>
    exact magnitude_lt firstStored secondStored (Option.some.inj less)
  case finite.negative.finite.negative =>
    have greater : (compare exponent otherExponent).then (compare significand other) = .gt :=
      Ordering.swap_eq_lt.mp (Option.some.inj less)
    have smaller : (compare otherExponent exponent).then (compare other significand) = .lt := by
      rw [← Int.compare_swap, ← Nat.compare_swap, ← Ordering.swap_then, Ordering.swap_eq_lt]
      exact greater
    have lower := magnitude_lt secondStored firstStored smaller
    simp only [place, signed]
    omega
  all_goals first
    | cases less; done
    | simp only [place, signed]
      grind [Stored, → magnitude_bounds]

section Fields

open UnpackedFloat

variable (bits : BitVec Format.binary64.numBits)

/-- The exponent field has the eleven bits below the sign. -/
theorem exponent_field : (unpackExponent bits).toNat = bits.toNat / 2 ^ 52 % 2 ^ 11 := by
  simp [unpackExponent, BitVec.extractLsb_toNat, Nat.shiftRight_eq_div_pow]

/-- The significand field has the lower 52 bits. -/
theorem significand_field : (unpackMantissa bits).toNat = bits.toNat % 2 ^ 52 := by
  simp [unpackMantissa, BitVec.extractLsb_toNat]

/-- The first bit is that of the sign. -/
theorem sign_field :
    Sign.ofBitVec (unpackSign bits) = if 2 ^ 63 ≤ bits.toNat then .negative else .positive := by
  have small : bits.toNat < 2 ^ 64 := bits.isLt
  have field : (unpackSign bits).toNat = bits.toNat / 2 ^ 63 := by
    simp [unpackSign, BitVec.extractLsb_toNat, Nat.shiftRight_eq_div_pow]
    omega
  have positive : unpackSign bits = 0#1 ↔ ¬2 ^ 63 ≤ bits.toNat := by
    rw [← BitVec.toNat_inj, field]
    change bits.toNat / 2 ^ 63 = 0 ↔ _
    omega
  simp only [Sign.ofBitVec, positive, ite_not]

/-- The five readings of stored bits, told apart by the fields. -/
inductive Reads : UnpackedFloat → Prop
  | infinity (full : bits.toNat / 2 ^ 52 % 2 ^ 11 = 2047) (bare : bits.toNat % 2 ^ 52 = 0) :
      Reads (.infinity (Sign.ofBitVec (unpackSign bits)))
  | notANumber : Reads .notANumber
  | zero (least : bits.toNat / 2 ^ 52 % 2 ^ 11 = 0) (bare : bits.toNat % 2 ^ 52 = 0) :
      Reads (.zero (Sign.ofBitVec (unpackSign bits)))
  | subnormal (least : bits.toNat / 2 ^ 52 % 2 ^ 11 = 0) (positive : 0 < bits.toNat % 2 ^ 52) :
      Reads (.finite (Sign.ofBitVec (unpackSign bits)) (bits.toNat % 2 ^ 52) (-1074) positive)
  | normal (above : bits.toNat / 2 ^ 52 % 2 ^ 11 ≠ 0) (below : bits.toNat / 2 ^ 52 % 2 ^ 11 ≠ 2047)
      (positive : 0 < 2 ^ 52 + bits.toNat % 2 ^ 52) :
      Reads (.finite (Sign.ofBitVec (unpackSign bits)) (2 ^ 52 + bits.toNat % 2 ^ 52)
        ((bits.toNat / 2 ^ 52 % 2 ^ 11 : Nat) - 1075) positive)

/-- Unpacking reads the fields. -/
theorem reads_unpack : Reads bits (UnpackedFloat.unpack Format.binary64 bits) := by
  have exponent := exponent_field bits
  have significand := significand_field bits
  have full : unpackExponent bits = -1#_ ↔ bits.toNat / 2 ^ 52 % 2 ^ 11 = 2047 := by
    rw [← BitVec.toNat_inj, exponent]
    rfl
  have least : unpackExponent bits = 0#_ ↔ bits.toNat / 2 ^ 52 % 2 ^ 11 = 0 := by
    rw [← BitVec.toNat_inj, exponent]
    rfl
  have bare : unpackMantissa bits = 0#_ ↔ bits.toNat % 2 ^ 52 = 0 := by
    rw [← BitVec.toNat_inj, significand]
    rfl
  have leading : (1#1 ++ unpackMantissa bits).toNat = 2 ^ 52 + bits.toNat % 2 ^ 52 := by
    have below : (unpackMantissa bits).toNat < 2 ^ 52 := (unpackMantissa bits).isLt
    rw [BitVec.toNat_append, ← Nat.shiftLeft_add_eq_or_of_lt below, significand]
    rfl
  unfold UnpackedFloat.unpack
  simp only [full, least, bare, leading, exponent, significand]
  split_ifs with isFull isBare isLeast isBare
  · exact .infinity isFull isBare
  · exact .notANumber
  · exact .zero isLeast isBare
  · rw [isLeast]
    exact .subnormal isLeast (Nat.pos_of_ne_zero isBare)
  · exact .normal isLeast isFull _

/-- What unpacking reads can be stored. -/
theorem stored_unpack : Stored (UnpackedFloat.unpack Format.binary64 bits) := by
  have reading := reads_unpack bits
  generalize UnpackedFloat.unpack Format.binary64 bits = value at reading
  cases reading with
  | infinity full bare => trivial
  | notANumber => trivial
  | zero least bare => trivial
  | subnormal least positive => constructor <;> omega
  | normal above below positive => constructor <;> omega

/-- The bits after the sign count the stored values below the one they stand for. -/
theorem place_unpack (number : UnpackedFloat.unpack Format.binary64 bits ≠ .notANumber) :
    place (UnpackedFloat.unpack Format.binary64 bits) =
      if 2 ^ 63 ≤ bits.toNat then -((bits.toNat - 2 ^ 63 : Nat) : Int) - 1 else bits.toNat := by
  have small : bits.toNat < 2 ^ 64 := bits.isLt
  have signedRest : signed (Sign.ofBitVec (unpackSign bits)) (bits.toNat % 2 ^ 63 : Nat) =
      if 2 ^ 63 ≤ bits.toNat then -((bits.toNat - 2 ^ 63 : Nat) : Int) - 1 else bits.toNat := by
    rw [sign_field]
    split_ifs with negative
    · simp only [signed]
      omega
    · simp only [signed]
      omega
  rw [← signedRest]
  have reading := reads_unpack bits
  generalize UnpackedFloat.unpack Format.binary64 bits = value at reading number
  cases reading with
  | infinity full bare =>
    refine congrArg (signed _) ?_
    omega
  | notANumber => exact absurd rfl number
  | zero least bare =>
    refine congrArg (signed _) ?_
    omega
  | subnormal least positive =>
    refine congrArg (signed _) ?_
    unfold magnitude
    omega
  | normal above below positive =>
    refine congrArg (signed _) ?_
    unfold magnitude
    omega

end Fields

/-- A float that is less than another has the lower rank. -/
theorem rank_lt_rank_of_lt {first second : Float} (less : first < second) :
    rank first < rank second := by
  have compared : first.toModel.unpack.compare second.toModel.unpack = some .lt := by
    have holds : (first.toModel.unpack.compare second.toModel.unpack == some .lt) = true :=
      of_decide_eq_true less
    exact beq_iff_eq.mp holds
  have rank_eq : ∀ x : Float, x.toModel.unpack ≠ .notANumber → rank x = place x.toModel.unpack := by
    intro x number
    exact (place_unpack x.toModel.toBits.toBitVec number).symm
  have firstNumber : first.toModel.unpack ≠ .notANumber := by
    intro absent
    rw [absent] at compared
    cases compared
  have secondNumber : second.toModel.unpack ≠ .notANumber := by
    intro absent
    rw [absent] at compared
    generalize first.toModel.unpack = value at compared
    cases value <;> cases compared
  rw [rank_eq first firstNumber, rank_eq second secondNumber]
  exact place_lt_of_compare _ _ (stored_unpack _) (stored_unpack _) compared

end ReleaseFinder.Decimal
