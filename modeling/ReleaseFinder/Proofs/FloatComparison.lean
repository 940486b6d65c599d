import ReleaseFinder.Proofs.FloatOrder

/-!
# Comparing floats

Floats are compared as the numbers that they stand for. Both zeros are one number, and the stored
value that is not a number compares with nothing, itself included. `height?` counts the numbers from
zero on, upwards and downwards; two floats compare as their heights do, so comparisons can be
chained like those of integers.
-/

namespace ReleaseFinder.Decimal

open Float.Model

/-- The number of steps from zero to a number, through the stored numbers of its sign. -/
def height? : UnpackedFloat → Option Int
  | .notANumber => none
  | .infinity sign => some (sign.apply (2047 * 2 ^ 52))
  | .zero _ => some 0
  | .finite sign significand exponent _ => some (sign.apply (magnitude significand exponent))

/-- Magnitudes compare as the exponents do, and then as the significands. -/
theorem compare_magnitude {significand other : Nat} {exponent otherExponent : Int}
    (stored : StoredFinite significand exponent) (otherStored : StoredFinite other otherExponent) :
    (compare exponent otherExponent).then (compare significand other) =
      compare (magnitude significand exponent) (magnitude other otherExponent) := by
  cases result : (compare exponent otherExponent).then (compare significand other) with
  | lt =>
    have below := magnitude_lt stored otherStored result
    exact (Int.compare_eq_lt.mpr below).symm
  | eq =>
    rw [Ordering.then_eq_eq, Int.compare_eq_eq, Nat.compare_eq_eq] at result
    obtain ⟨rfl, rfl⟩ := result
    exact (Int.compare_eq_eq.mpr rfl).symm
  | gt =>
    have swapped : (compare otherExponent exponent).then (compare other significand) = .lt := by
      rw [← Int.compare_swap, ← Nat.compare_swap, ← Ordering.swap_then, Ordering.swap_eq_lt]
      exact result
    have above := magnitude_lt otherStored stored swapped
    exact (Int.compare_eq_gt.mpr above).symm

/-- Stored values compare as their heights, if both have one. Only two finite values of one sign
have to be looked into. -/
theorem compare_eq_heights (first second : UnpackedFloat) (firstStored : Stored first)
    (secondStored : Stored second) :
    first.compare second =
      (height? first).bind fun low => (height? second).map fun high => compare low high := by
  rcases first with ⟨_ | _⟩ | _ | ⟨_ | _⟩ | ⟨_ | _, significand, exponent, positive⟩ <;>
    rcases second with ⟨_ | _⟩ | _ | ⟨_ | _⟩ | ⟨_ | _, other, otherExponent, otherPositive⟩
  case finite.positive.finite.positive =>
    exact congrArg some (compare_magnitude firstStored secondStored)
  case finite.negative.finite.negative =>
    have same := compare_magnitude firstStored secondStored
    have negated (a b : Int) : compare (-a) (-b) = (compare a b).swap := by
      rw [Int.compare_swap, Int.compare_eq_ite_lt, Int.compare_eq_ite_lt]
      simp only [Int.neg_lt_neg_iff]
    simp only [height?, Option.bind_some, Option.map_some, UnpackedFloat.Sign.apply, negated,
      ← same]
    rfl
  all_goals first
    | rfl
    | refine congrArg some (Int.compare_eq_lt.mpr ?_).symm
      simp only [UnpackedFloat.Sign.apply]
      grind [Stored, → magnitude_bounds]
    | refine congrArg some (Int.compare_eq_gt.mpr ?_).symm
      simp only [UnpackedFloat.Sign.apply]
      grind [Stored, → magnitude_bounds]

/-- The height of a float. -/
def floatHeight? (x : Float) : Option Int :=
  height? x.toModel.unpack

/-- How two floats compare is told by their heights. -/
theorem floatCompare_eq_heights (first second : Float) :
    first.toModel.unpack.compare second.toModel.unpack =
      (floatHeight? first).bind fun low => (floatHeight? second).map fun high => compare low high :=
  compare_eq_heights _ _ (stored_unpack _) (stored_unpack _)

/-- One float is less than another if both have a height, and its own is less. -/
theorem lt_iff (first second : Float) :
    first < second ↔
      ∃ low, floatHeight? first = some low ∧ ∃ high, floatHeight? second = some high ∧
        low < high := by
  have meaning : first < second ↔
      (first.toModel.unpack.compare second.toModel.unpack == some .lt) = true := decide_eq_true_iff
  rw [meaning, floatCompare_eq_heights, beq_iff_eq]
  simp only [Option.bind_eq_some_iff, Option.map_eq_some_iff, Int.compare_eq_lt]

/-- One float is at most another if both have a height, and its own is at most the other's. -/
theorem le_iff (first second : Float) :
    first ≤ second ↔
      ∃ low, floatHeight? first = some low ∧ ∃ high, floatHeight? second = some high ∧
        low ≤ high := by
  have meaning : first ≤ second ↔
      ((first.toModel.unpack.compare second.toModel.unpack).any (·.isLE)) = true :=
        decide_eq_true_iff
  rw [meaning, floatCompare_eq_heights]
  cases floatHeight? first <;> cases floatHeight? second <;> simp [Int.isLE_compare]

/-- The floats without a height are those that are not a number. -/
theorem isNaN_iff (x : Float) : x.isNaN = true ↔ floatHeight? x = none := by
  have meaning : x.isNaN = x.toModel.unpack.isNaN := rfl
  rw [meaning, floatHeight?]
  cases x.toModel.unpack <;> simp [UnpackedFloat.isNaN, height?]

/-- What is less than something is less than all that this is at most. -/
theorem lt_of_lt_of_le {first second third : Float} (below : first < second)
    (within : second ≤ third) : first < third := by
  obtain ⟨low, lowest, middle, inside, below⟩ := (lt_iff first second).mp below
  obtain ⟨again, found, high, highest, within⟩ := (le_iff second third).mp within
  have same : middle = again := Option.some.inj (inside.symm.trans found)
  exact (lt_iff first third).mpr ⟨low, lowest, high, highest, by omega⟩

/-- The order of floats can be chained. -/
theorem le_trans {first second third : Float} (below : first ≤ second) (within : second ≤ third) :
    first ≤ third := by
  obtain ⟨low, lowest, middle, inside, below⟩ := (le_iff first second).mp below
  obtain ⟨again, found, high, highest, within⟩ := (le_iff second third).mp within
  have same : middle = again := Option.some.inj (inside.symm.trans found)
  exact (le_iff first third).mpr ⟨low, lowest, high, highest, by omega⟩

/-- Nothing is less than what is not a number. -/
theorem not_lt_of_isNaN {first second : Float} (absent : second.isNaN = true) :
    ¬ first < second := by
  rw [isNaN_iff] at absent
  simp [lt_iff, absent]

/-- What is not a number is less than nothing. -/
theorem not_lt_of_isNaN_left {first second : Float} (absent : first.isNaN = true) :
    ¬ first < second := by
  rw [isNaN_iff] at absent
  simp [lt_iff, absent]

/-- What is not a number is at most nothing. -/
theorem not_le_of_isNaN_left {first second : Float} (absent : first.isNaN = true) :
    ¬ first ≤ second := by
  rw [isNaN_iff] at absent
  simp [le_iff, absent]

/-- Nothing is at most what is not a number. -/
theorem not_le_of_isNaN_right {first second : Float} (absent : second.isNaN = true) :
    ¬ first ≤ second := by
  rw [isNaN_iff] at absent
  simp [le_iff, absent]

/-- A float that is not above another is at most the other, unless one of the two is not a
number. -/
theorem not_lt_iff (first second : Float) :
    ¬ second < first ↔ first ≤ second ∨ first.isNaN = true ∨ second.isNaN = true := by
  rw [lt_iff, le_iff, isNaN_iff, isNaN_iff]
  cases floatHeight? first <;> cases floatHeight? second <;> simp

/-- A number is at most itself. -/
theorem le_self {x : Float} (number : x.isNaN = false) : x ≤ x := by
  rw [← Bool.not_eq_true, isNaN_iff] at number
  obtain ⟨height, high⟩ := Option.ne_none_iff_exists'.mp number
  exact (le_iff x x).mpr ⟨height, high, height, high, le_rfl⟩

/-- What is at most something is a number. -/
theorem number_of_le_left {first second : Float} (within : first ≤ second) :
    first.isNaN = false := by
  rw [← Bool.not_eq_true]
  intro absent
  exact not_le_of_isNaN_left absent within

/-- What something is at most is a number. -/
theorem number_of_le_right {first second : Float} (within : first ≤ second) :
    second.isNaN = false := by
  rw [← Bool.not_eq_true]
  intro absent
  exact not_le_of_isNaN_right absent within

end ReleaseFinder.Decimal
