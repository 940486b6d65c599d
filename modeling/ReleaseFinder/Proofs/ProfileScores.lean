import ReleaseFinder.Profile.Basic
import ReleaseFinder.Proofs.ExactRelevance

/-!
# What a profile's score is made of

A profile's score is the sum of what five dimensions earn, and any violation halves it. In exact
numbers no dimension earns more than its weight, and the weights add up to a hundred, so the window
at the end never moves the sum: every law of the score is a law of the sum. It is full exactly if
each dimension has its most preferred value and nothing is violated. A value that is listed earlier
earns more, and it earns it without a cost, since no other dimension and no violation looks at it;
only resolutions are looked at twice.
-/

namespace ReleaseFinder

/-- The first place of a list at which a value stands, up to the case of ASCII letters. -/
def FirstPlace (values : List String) (value : String) (place : ℕ) : Prop :=
  ∃ inside : place < values.length, Text.sameLetters values[place] value = true ∧
    ∀ earlier, ∀ before : earlier < place, Text.sameLetters values[earlier] value = false

/-- The position that is looked up is the first place of the value. -/
theorem position?_eq_some_iff (values : List String) (value : String) (place : ℕ) :
    position? values value = some place ↔ FirstPlace values value place := by
  simp [position?, FirstPlace, List.findIdx?_eq_some_iff_getElem]

/-- No position is found exactly if the value is not listed in any case of letters. -/
theorem position?_eq_none_iff (values : List String) (value : String) :
    position? values value = none ↔ ∀ listed ∈ values, Text.sameLetters listed value = false :=
  List.findIdx?_eq_none_iff

/-- The attributes with another value of a dimension. -/
def Attributes.withValue (attributes : Attributes) (value : String) : Dimension → Attributes
  | .resolution => { attributes with resolution := some value }
  | .source => { attributes with source := some value }
  | .videoCodec => { attributes with videoCodec := some value }
  | .audioCodec => { attributes with audioCodec := some value }
  | .hdrFormat => { attributes with hdrFormat := some value }

namespace Dimension

/-- The list of dimensions has every dimension. -/
theorem mem_all (dimension : Dimension) : dimension ∈ all := by
  cases dimension <;> decide

/-- The weights add up to a hundred. -/
theorem sum_weight : (all.map fun dimension => (dimension.weight : ℚ)).sum = 100 := by
  norm_num [all, weight]

/-- Every dimension has a positive weight. -/
theorem weight_pos (dimension : Dimension) : (0 : ℚ) < dimension.weight := by
  cases dimension <;> norm_num [weight]

/-- The other dimensions keep their values. -/
theorem value?_withValue (attributes : Attributes) (value : String) (dimension other : Dimension) :
    other.value? (attributes.withValue value dimension) =
      if other = dimension then some value else other.value? attributes := by
  cases dimension <;> cases other <;> rfl

/-- The release has a value of the dimension, and this is its first place in the profile's list. -/
def ListedAt (profile : Profile) (attributes : Attributes) (dimension : Dimension) (place : ℕ) :
    Prop :=
  ∃ value, dimension.value? attributes = some value ∧
    FirstPlace (dimension.preferred profile) value place

/-- The release has no value of the dimension, or one that the profile does not list. -/
def Unlisted (profile : Profile) (attributes : Attributes) (dimension : Dimension) : Prop :=
  ∀ value, dimension.value? attributes = some value →
    ∀ listed ∈ dimension.preferred profile, Text.sameLetters listed value = false

/-- The release has the value of the dimension that the profile prefers to all others. -/
def IsBest (profile : Profile) (attributes : Attributes) (dimension : Dimension) : Prop :=
  ∃ best others value, dimension.preferred profile = best :: others ∧
    dimension.value? attributes = some value ∧ Text.sameLetters best value = true

variable (profile : Profile) (attributes : Attributes) (dimension : Dimension)

/-- The release is listed at a place exactly if its value is looked up there. -/
theorem listedAt_iff (place : ℕ) : ListedAt profile attributes dimension place ↔
    (dimension.value? attributes).bind (position? (dimension.preferred profile)) = some place := by
  simp only [ListedAt, Option.bind_eq_some_iff, position?_eq_some_iff]

/-- The release is unlisted exactly if no position is found for it. -/
theorem unlisted_iff : Unlisted profile attributes dimension ↔
    (dimension.value? attributes).bind (position? (dimension.preferred profile)) = none := by
  simp only [Unlisted, Option.bind_eq_none_iff, position?_eq_none_iff]

/-- The best value is the one that is listed first. -/
theorem isBest_iff :
    IsBest profile attributes dimension ↔ ListedAt profile attributes dimension 0 := by
  constructor
  · rintro ⟨best, others, value, list, known, same⟩
    refine ⟨value, known, ?_⟩
    rw [list]
    exact ⟨Nat.zero_lt_succ _, same, fun earlier before => absurd before (Nat.not_lt_zero earlier)⟩
  · rintro ⟨value, known, inside, same, -⟩
    obtain ⟨best, others, list⟩ := List.exists_cons_of_length_pos inside
    simp only [list, List.getElem_cons_zero] at same
    exact ⟨best, others, value, list, known, same⟩

end Dimension

namespace Profile

open Dimension

/-! ## One dimension -/

section

variable {preferred : List String} {value : Option String} {place : ℕ}

/-- A profile without preferences answers with a half. -/
theorem preference_nil : (preference [] value : ℚ) = 1 / 2 := by
  norm_num [preference, Scalar.ratio, Scalar.ofNat_rat]

/-- Positions lie within the list. -/
theorem lt_length_of_position (listed : value.bind (position? preferred) = some place) :
    place < preferred.length := by
  obtain ⟨_, _, found⟩ := Option.bind_eq_some_iff.mp listed
  exact ((position?_eq_some_iff ..).mp found).1

/-- A listed value loses a share for every value before it. -/
theorem preference_listed (listed : value.bind (position? preferred) = some place) :
    (preference preferred value : ℚ) = 1 - place / preferred.length := by
  have some : ¬ preferred.isEmpty = true := by
    rw [List.isEmpty_iff_length_eq_zero]
    exact Nat.ne_of_gt (Nat.zero_lt_of_lt (lt_length_of_position listed))
  rw [preference, if_neg some, listed]
  simp only [Scalar.ratio, Scalar.ofNat_rat, Nat.cast_one]

/-- A value that the profile does not list earns nothing where others are listed. -/
theorem preference_unlisted (some : preferred ≠ [])
    (unlisted : value.bind (position? preferred) = none) :
    (preference preferred value : ℚ) = 0 := by
  rw [preference, if_neg (mt List.isEmpty_iff.mp some), unlisted]
  rfl

/-- What is listed earns something, and all of it only at the first place. -/
theorem preference_listed_bounds (listed : value.bind (position? preferred) = some place) :
    0 < (preference preferred value : ℚ) ∧ (preference preferred value : ℚ) ≤ 1 := by
  have inside : (place : ℚ) < preferred.length := by
    exact_mod_cast lt_length_of_position listed
  have positive : (0 : ℚ) < preferred.length := lt_of_le_of_lt (Nat.cast_nonneg place) inside
  have share : (place : ℚ) / preferred.length < 1 := (div_lt_one positive).mpr inside
  have nonneg : (0 : ℚ) ≤ place / preferred.length := div_nonneg (Nat.cast_nonneg place) positive.le
  rw [preference_listed listed]
  constructor
  · linarith
  · linarith

/-- A preference lies between zero and one. -/
theorem preference_bounds (preferred : List String) (value : Option String) :
    0 ≤ (preference preferred value : ℚ) ∧ (preference preferred value : ℚ) ≤ 1 := by
  by_cases none : preferred = []
  · rw [none, preference_nil]
    norm_num
  · cases found : value.bind (position? preferred) with
    | none =>
      rw [preference_unlisted none found]
      norm_num
    | some place =>
      obtain ⟨positive, atMost⟩ := preference_listed_bounds found
      exact ⟨positive.le, atMost⟩

/-- Only the first place earns everything. -/
theorem preference_eq_one_iff (preferred : List String) (value : Option String) :
    (preference preferred value : ℚ) = 1 ↔ value.bind (position? preferred) = some 0 := by
  constructor
  · intro full
    by_cases none : preferred = []
    · rw [none, preference_nil] at full
      norm_num at full
    · cases found : value.bind (position? preferred) with
      | none =>
        rw [preference_unlisted none found] at full
        norm_num at full
      | some place =>
        have positive : (preferred.length : ℚ) ≠ 0 := by
          exact_mod_cast Nat.ne_of_gt (Nat.zero_lt_of_lt (lt_length_of_position found))
        rw [preference_listed found, sub_eq_self, div_eq_zero_iff, or_iff_left positive,
          Nat.cast_eq_zero] at full
        rw [full]
  · intro first
    rw [preference_listed first, Nat.cast_zero, zero_div, sub_zero]

/-- An earlier place earns more than a later one, or than none. -/
theorem preference_lt_of_earlier {former : Option String}
    (listed : value.bind (position? preferred) = some place)
    (earlier : ∀ formerPlace, former.bind (position? preferred) = some formerPlace →
      place < formerPlace) :
    (preference preferred former : ℚ) < preference preferred value := by
  have inside := lt_length_of_position listed
  cases found : former.bind (position? preferred) with
  | none =>
    rw [preference_unlisted (List.ne_nil_of_length_pos (Nat.zero_lt_of_lt inside)) found]
    exact (preference_listed_bounds listed).1
  | some formerPlace =>
    have positive : (0 : ℚ) < preferred.length := by
      exact_mod_cast Nat.zero_lt_of_lt inside
    have before : (place : ℚ) < formerPlace := by
      exact_mod_cast earlier formerPlace found
    rw [preference_listed listed, preference_listed found]
    exact sub_lt_sub_left (div_lt_div_of_pos_right before positive) 1

end

variable (profile : Profile) (attributes : Attributes) (dimension : Dimension)

/-- A dimension contributes its weight times the preference. -/
theorem contribution_rat : (profile.contribution attributes dimension : ℚ) =
    dimension.weight * preference (dimension.preferred profile) (dimension.value? attributes) :=
  rfl

variable {profile attributes dimension} in
/-- Without a preference, every value earns half. -/
theorem contribution_of_no_preference (none : dimension.preferred profile = []) :
    (profile.contribution attributes dimension : ℚ) = dimension.weight / 2 := by
  rw [contribution_rat, none, preference_nil, mul_one_div]

variable {profile attributes dimension} in
/-- A listed value earns less by one share for each entry before it. -/
theorem contribution_of_listedAt {place : ℕ}
    (listed : ListedAt profile attributes dimension place) :
    (profile.contribution attributes dimension : ℚ) =
      dimension.weight * (1 - place / (dimension.preferred profile).length) := by
  rw [contribution_rat, preference_listed ((listedAt_iff ..).mp listed)]

variable {profile attributes dimension} in
/-- A value that is missing or not listed earns nothing. -/
theorem contribution_of_unlisted (some : dimension.preferred profile ≠ [])
    (unlisted : Unlisted profile attributes dimension) :
    (profile.contribution attributes dimension : ℚ) = 0 := by
  rw [contribution_rat, preference_unlisted some ((unlisted_iff ..).mp unlisted), mul_zero]

/-- A contribution lies between zero and the weight. -/
theorem contribution_bounds : 0 ≤ (profile.contribution attributes dimension : ℚ) ∧
    (profile.contribution attributes dimension : ℚ) ≤ dimension.weight := by
  obtain ⟨nonneg, atMost⟩ :=
    preference_bounds (dimension.preferred profile) (dimension.value? attributes)
  rw [contribution_rat]
  constructor
  · exact mul_nonneg dimension.weight_pos.le nonneg
  · exact mul_le_of_le_one_right dimension.weight_pos.le atMost

/-- A dimension earns its whole weight with its best value only. -/
theorem contribution_eq_weight_iff :
    (profile.contribution attributes dimension : ℚ) = dimension.weight ↔
    IsBest profile attributes dimension := by
  rw [contribution_rat, mul_eq_left₀ dimension.weight_pos.ne', preference_eq_one_iff, isBest_iff,
    listedAt_iff]

/-! ## The sum -/

/-- What all dimensions earn together. -/
def earned : ℚ :=
  (Dimension.all.map (profile.contribution attributes)).sum

/-- All dimensions together earn between 0 and 100, since the weights add up to 100. -/
theorem earned_bounds : 0 ≤ profile.earned attributes ∧ profile.earned attributes ≤ 100 := by
  constructor
  · apply List.sum_nonneg
    intro earns member
    obtain ⟨dimension, -, rfl⟩ := List.mem_map.mp member
    exact (contribution_bounds profile attributes dimension).1
  · rw [← sum_weight]
    apply List.sum_le_sum
    intro dimension _
    exact (contribution_bounds profile attributes dimension).2

/-- Everything is earned if every dimension earns its weight. -/
theorem earned_eq_hundred_iff :
    profile.earned attributes = 100 ↔ ∀ dimension, IsBest profile attributes dimension := by
  simp only [← contribution_eq_weight_iff]
  constructor
  · intro full dimension
    by_contra less
    have below : (profile.contribution attributes dimension : ℚ) < dimension.weight :=
      lt_of_le_of_ne (contribution_bounds profile attributes dimension).2 less
    have sum : profile.earned attributes < (all.map fun dimension => (dimension.weight : ℚ)).sum :=
      List.sum_lt_sum _ _ (fun other _ => (contribution_bounds profile attributes other).2)
        ⟨dimension, mem_all dimension, below⟩
    rw [sum_weight, full] at sum
    exact lt_irrefl _ sum
  · intro full
    rw [earned, ← sum_weight]
    exact congrArg List.sum (List.map_congr_left fun dimension _ => full dimension)

/-- The sum is in the window, whole or halved. -/
theorem score_rat : (profile.score attributes : ℚ) =
    if profile.violations attributes = [] then profile.earned attributes
    else profile.earned attributes / 2 := by
  obtain ⟨nonneg, atMost⟩ := profile.earned_bounds attributes
  have window : (0 : ℚ) ≤ 100 := by
    norm_num
  have unmoved {x : ℚ} (least : 0 ≤ x) (most : x ≤ 100) : Scalar.clamp 0 100 x = x := by
    rw [Scalar.clamp_rat window, min_eq_right most, max_eq_right least]
  have sum :
      (Dimension.all.map (profile.contribution attributes)).foldl (· + ·) (Scalar.ofNat 0 : ℚ) =
        profile.earned attributes := List.sum_eq_foldl.symm
  have formula : (profile.score attributes : ℚ) = Scalar.clamp 0 100
      (if (!(profile.violations attributes).isEmpty) = true then profile.earned attributes / 2
        else profile.earned attributes) := by
    rw [← sum]
    rfl
  rw [formula]
  by_cases none : profile.violations attributes = []
  · rw [if_pos none, none, if_neg (by decide), unmoved nonneg atMost]
  · have violated : (!(profile.violations attributes).isEmpty) = true := by
      simpa using none
    rw [if_neg none, if_pos violated, unmoved (by linarith) (by linarith)]

/-- The score is full if nothing is violated and everything is earned. -/
theorem score_eq_hundred_iff : (profile.score attributes : ℚ) = 100 ↔
    profile.violations attributes = [] ∧ ∀ dimension, IsBest profile attributes dimension := by
  have atMost := (profile.earned_bounds attributes).2
  rw [score_rat, ← earned_eq_hundred_iff]
  by_cases none : profile.violations attributes = []
  · rw [if_pos none]
    exact (and_iff_right none).symm
  · rw [if_neg none]
    constructor
    · intro full
      linarith
    · rintro ⟨impossible, -⟩
      exact absurd impossible none

/-! ## Another value -/

variable (value : String)

/-- No violation looks at a dimension other than resolution. -/
theorem violations_withValue (other : dimension ≠ .resolution) :
    profile.violations (attributes.withValue value dimension) = profile.violations attributes := by
  cases dimension with
  | resolution => exact absurd rfl other
  | source => rfl
  | videoCodec => rfl
  | audioCodec => rfl
  | hdrFormat => rfl

/-- A value of one dimension earns nothing for another. -/
theorem contribution_withValue_of_ne {other : Dimension} (different : other ≠ dimension) :
    (profile.contribution (attributes.withValue value dimension) other : ℚ) =
      profile.contribution attributes other := by
  rw [contribution_rat, contribution_rat, value?_withValue, if_neg different]

/-- The value is listed, and earlier than the value that the release has, if that one is listed. -/
def Improves : Prop :=
  ∃ place, FirstPlace (dimension.preferred profile) value place ∧
    ∀ former, ListedAt profile attributes dimension former → place < former

variable {profile attributes dimension value}

/-- A dimension with a better value contributes more. -/
theorem contribution_lt_of_improves (improves : profile.Improves attributes dimension value) :
    (profile.contribution attributes dimension : ℚ) <
      profile.contribution (attributes.withValue value dimension) dimension := by
  obtain ⟨place, listed, earlier⟩ := improves
  simp only [listedAt_iff] at earlier
  have found : (some value).bind (position? (dimension.preferred profile)) = some place :=
    (position?_eq_some_iff ..).mpr listed
  rw [contribution_rat, contribution_rat, value?_withValue, if_pos rfl]
  exact mul_lt_mul_of_pos_left (preference_lt_of_earlier found earlier) dimension.weight_pos

/-- What one dimension earns more, all earn more together. -/
theorem earned_lt_of_improves (improves : profile.Improves attributes dimension value) :
    profile.earned attributes < profile.earned (attributes.withValue value dimension) := by
  apply List.sum_lt_sum
  · intro other _
    by_cases same : other = dimension
    · rw [same]
      exact (contribution_lt_of_improves improves).le
    · exact (contribution_withValue_of_ne profile attributes dimension value same).ge
  · exact ⟨dimension, mem_all dimension, contribution_lt_of_improves improves⟩

/-- A better value of a dimension other than the resolution makes a higher score. -/
theorem score_lt_of_improves (other : dimension ≠ .resolution)
    (improves : profile.Improves attributes dimension value) :
    (profile.score attributes : ℚ) < profile.score (attributes.withValue value dimension) := by
  have more := earned_lt_of_improves improves
  rw [score_rat, score_rat, violations_withValue profile attributes dimension value other]
  split_ifs
  · exact more
  · exact div_lt_div_of_pos_right more two_pos

/-- A dimension without a preference earns half of its weight; otherwise a listed value earns the
more of it the earlier it is listed, and any other value nothing. The sum lies between 0 and 100 and
is the score, or twice the score when anything is violated. The score is full exactly if nothing is
violated and every dimension has its best value. A value that is listed earlier raises what its
dimension earns, and the score too, unless it is a resolution, which may be one that is not
allowed. -/
theorem scores_are_weighted_preferences (profile : Profile) (attributes : Attributes) :
    (∀ dimension : Dimension,
      (dimension.preferred profile = [] →
        (profile.contribution attributes dimension : ℚ) = dimension.weight / 2) ∧
      (∀ place, ListedAt profile attributes dimension place →
        (profile.contribution attributes dimension : ℚ) =
          dimension.weight * (1 - place / (dimension.preferred profile).length)) ∧
      (dimension.preferred profile ≠ [] → Unlisted profile attributes dimension →
        (profile.contribution attributes dimension : ℚ) = 0) ∧
      0 ≤ (profile.contribution attributes dimension : ℚ) ∧
      (profile.contribution attributes dimension : ℚ) ≤ dimension.weight) ∧
    (0 ≤ profile.earned attributes ∧ profile.earned attributes ≤ 100) ∧
    (profile.violations attributes = [] →
      (profile.score attributes : ℚ) = profile.earned attributes) ∧
    (profile.violations attributes ≠ [] →
      (profile.score attributes : ℚ) = profile.earned attributes / 2) ∧
    ((profile.score attributes : ℚ) = 100 ↔
      profile.violations attributes = [] ∧ ∀ dimension, IsBest profile attributes dimension) ∧
    ∀ dimension value, profile.Improves attributes dimension value →
      (profile.contribution attributes dimension : ℚ) <
          profile.contribution (attributes.withValue value dimension) dimension ∧
        (dimension ≠ .resolution →
          (profile.score attributes : ℚ) <
            profile.score (attributes.withValue value dimension)) := by
  refine ⟨?dimensions, profile.earned_bounds attributes, ?whole, ?halved,
    profile.score_eq_hundred_iff attributes, ?improved⟩
  case dimensions =>
    intro dimension
    exact ⟨contribution_of_no_preference, fun _ => contribution_of_listedAt,
      contribution_of_unlisted, contribution_bounds profile attributes dimension⟩
  case whole =>
    intro none
    rw [score_rat, if_pos none]
  case halved =>
    intro violated
    rw [score_rat, if_neg violated]
  case improved =>
    intro dimension value improves
    exact ⟨contribution_lt_of_improves improves, fun other => score_lt_of_improves other improves⟩

end Profile

end ReleaseFinder
