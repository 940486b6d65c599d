import ReleaseFinder.Proofs.FloatArithmetic
import ReleaseFinder.Ranking.Basic

/-!
# Bounds of scores

A profile from outside may answer with any float. Its answer is moved into the window from 0 to 100
before it enters the score; relevance lies between 0 and 20, and seeders never count against a
release. So the score lies between zero and a cap that depends on the seeders alone, and rounding
does not lift it over the cap, because the cap is computed with the same operations.

The window does not hold what is not a number, and that goes through to the score. A profile can
answer so, and nothing else leads to it. Such a score compares with no cap. Where it is ranked
depends on its sign, and of all stored values that are not a number only the one without a sign is
told here (`Decimal.rank`): that one comes before all numbers (`absent_answer_ranks_first`).
-/

namespace ReleaseFinder

open Decimal

namespace Scalar

variable {low high x : Float}

/-- A number is moved into a window. -/
theorem clamp_bounds (ordered : low ≤ high) (number : x.isNaN = false) :
    low ≤ clamp low high x ∧ clamp low high x ≤ high := by
  have lowNumber := number_of_le_left ordered
  have highNumber := number_of_le_right ordered
  unfold clamp
  split_ifs with below above
  · exact ⟨le_self lowNumber, ordered⟩
  · exact ⟨ordered, le_self highNumber⟩
  · have reached := (not_lt_iff low x).mp below
    have within := (not_lt_iff x high).mp above
    simp only [number, lowNumber, highNumber, Bool.false_eq_true, or_false] at reached within
    exact ⟨reached, within⟩

/-- What is not a number is not moved. -/
theorem clamp_of_isNaN (absent : x.isNaN = true) : clamp low high x = x := by
  rw [clamp, if_neg (not_lt_of_isNaN_left absent), if_neg (not_lt_of_isNaN absent)]

end Scalar

namespace Relevance

/-- Words are parts of the text, and lower case makes two characters of one at most. -/
theorem length_words_le (text : String) : (words text).length ≤ 2 * text.length := by
  have parts (found : List Word) (inhabited : ∀ piece ∈ found, piece ≠ []) :
      found.length ≤ found.flatten.length := by
    induction found with
    | nil => exact le_rfl
    | cons piece found inductionHypothesis =>
      have first := List.length_pos_iff.mpr (inhabited piece List.mem_cons_self)
      have later :=
        inductionHypothesis fun other member => inhabited other (List.mem_cons_of_mem _ member)
      rw [List.flatten_cons, List.length_append, List.length_cons]
      omega
  have lower (before text : List Char) :
      (Text.lowerAfter before text).length ≤ 2 * text.length := by
    induction text generalizing before with
    | nil => exact le_rfl
    | cons c text inductionHypothesis =>
      have later := inductionHypothesis (c :: before)
      have image : (Text.lowerInContext before c text).length ≤ 2 := by
        unfold Text.lowerInContext
        split_ifs <;> simp
      rw [Text.lowerAfter, List.length_append, List.length_cons]
      omega
  have pieces := parts (words text) (Text.ne_nil_of_mem_pieces _ _)
  have kept := List.length_filter_le (fun c => !separatesWords c) (Text.lowerChars text.toList)
  have images := lower [] text.toList
  rw [words, Text.flatten_pieces] at pieces
  rw [words]
  exact (pieces.trans kept).trans images

/-- Relevance lies between 0 and 20. The share of the query's words that are found is a number, as
long as these can be counted in a float. -/
theorem Overlap.relevance_bounds (overlap : Overlap) (counted : overlap.asked ≤ 2 ^ 64) :
    (0 : Float) ≤ overlap.relevance ∧ overlap.relevance ≤ (20 : Float) := by
  by_cases nothing : overlap.asked = 0
  · rw [relevance, if_pos nothing]
    exact ⟨ofNat_nonneg 0, ofNat_le_ofNat (by decide)⟩
  · rw [relevance, if_neg nothing]
    have share : (0 : Float) ≤ Scalar.ratio overlap.found overlap.asked :=
      zero_le_div (ofNat_pos (Nat.pos_of_ne_zero nothing)) (ofNat_isFinite counted) (ofNat_nonneg _)
    have weighted : (0 : Float) ≤ Scalar.ratio overlap.found overlap.asked * Scalar.ofNat 15 :=
      zero_le_mul (ofNat_pos (by decide)) (ofNat_isFinite (by decide)) share
    obtain ⟨sum, reached⟩ := nonneg_iff.mp
      (zero_le_add weighted (ofNat_nonneg (if overlap.beginsAlike then 5 else 0)))
    obtain ⟨penalty, taken⟩ : ∃ q : ℚ, Amount (Float.ofNat (min (2 * overlap.extra) 10)) q :=
      exists_amount_ofNat (by omega)
    exact Scalar.clamp_bounds (ofNat_le_ofNat (by decide)) (isNaN_sub_eq_false reached taken)

end Relevance

/-! ## The formula -/

/-- The most that a release with so many seeders can score. -/
def scoreCap (seeders : ℕ) : Float :=
  60.0 + seederScore seeders + 10.0

/-- Seeders never count against a release. -/
theorem seederScore_nonneg (seeders : ℕ) : 0 ≤ seederScore seeders := by
  unfold seederScore Parts.seederScore
  split_ifs with none
  · exact ofNat_nonneg 0
  · have logarithm : 0 ≤ Decimal.logarithm (seeders + 1) :=
      zero_le_div (ofNat_pos (by decide)) (ofNat_isFinite (by decide)) (ofNat_nonneg _)
    exact zero_le_mul (ofNat_pos (by decide)) (ofNat_isFinite (by decide)) logarithm

/-- The weights are positive and finite. The full quality is worth 60, the full relevance 10, and
the penalty takes something off. -/
theorem weights :
    (0 < (Scalar.ratio 6 10 : Float) ∧ (Scalar.ratio 6 10 : Float).isFinite = true ∧
        (100.0 : Float) * Scalar.ratio 6 10 = 60.0 ∧ (20 : Float) / Scalar.ofNat 2 = 10.0) ∧
      0 < (Scalar.ratio 7 10 : Float) ∧ (Scalar.ratio 7 10 : Float).isFinite = true ∧
        scoreCap 0 * Scalar.ratio 7 10 ≤ scoreCap 0 := by
  decide +kernel

namespace Parts

variable {parts : Parts Float}

/-- A quality in its window is worth between 0 and 60. -/
theorem qualityPart_bounds (quality : 0 ≤ parts.quality ∧ parts.quality ≤ 100.0) :
    0 ≤ parts.qualityPart ∧ parts.qualityPart ≤ 60.0 := by
  obtain ⟨⟨positive, finite, sixty, -⟩, -⟩ := weights
  have below := mul_le_mul_of_nonneg positive finite quality.1 quality.2
  rw [sixty] at below
  exact ⟨zero_le_mul positive finite quality.1, below⟩

/-- A relevance in its window is worth between 0 and 10. -/
theorem titlePart_bounds (relevance : 0 ≤ parts.relevance ∧ parts.relevance ≤ 20) :
    0 ≤ parts.titlePart ∧ parts.titlePart ≤ 10.0 := by
  obtain ⟨⟨-, -, -, ten⟩, -⟩ := weights
  have two : (0 : Float) < Scalar.ofNat 2 := ofNat_pos (by decide)
  have twoFinite : (Scalar.ofNat 2 : Float).isFinite = true := ofNat_isFinite (by decide)
  have below := div_le_div_of_nonneg two twoFinite relevance.1 relevance.2
  rw [ten] at below
  exact ⟨zero_le_div two twoFinite relevance.1, below⟩

/-- The penalty keeps a sum below the cap. -/
theorem penalty_bounds {seeders : ℕ} {sum : Float} (nonneg : 0 ≤ sum)
    (below : sum ≤ scoreCap seeders) :
    0 ≤ sum * penalty seeders ∧ sum * penalty seeders ≤ scoreCap seeders := by
  obtain ⟨-, positive, finite, penalised⟩ := weights
  by_cases none : seeders = 0
  · rw [penalty, if_pos none]
    have kept := mul_le_mul_of_nonneg positive finite nonneg below
    rw [none] at kept ⊢
    exact ⟨zero_le_mul positive finite nonneg, le_trans kept penalised⟩
  · rw [penalty, if_neg none]
    have same := floatHeight?_mul_one nonneg
    rw [le_iff] at nonneg below
    rw [← same] at nonneg below
    exact ⟨(le_iff _ _).mpr nonneg, (le_iff _ _).mpr below⟩

/-- Parts in their windows give a score between zero and the cap. -/
theorem total_bounds (quality : 0 ≤ parts.quality ∧ parts.quality ≤ 100.0)
    (relevance : 0 ≤ parts.relevance ∧ parts.relevance ≤ 20) :
    0 ≤ parts.total Decimal.logarithm ∧ parts.total Decimal.logarithm ≤ scoreCap parts.seeders := by
  have qualityPart := qualityPart_bounds quality
  have titlePart := titlePart_bounds relevance
  have seeders := seederScore_nonneg parts.seeders
  have seedersSelf := le_self (number_of_le_right seeders)
  have withSeeders := zero_le_add qualityPart.1 seeders
  have withSeedersBelow := add_le_add_of_nonneg qualityPart.1 seeders qualityPart.2 seedersSelf
  apply penalty_bounds
  · exact zero_le_add withSeeders titlePart.1
  · exact add_le_add_of_nonneg withSeeders titlePart.1 withSeedersBelow titlePart.2

/-- A quality that is not a number makes the score none. -/
theorem isNaN_total (absent : parts.quality.isNaN = true) :
    (parts.total Decimal.logarithm).isNaN = true :=
  isNaN_mul (isNaN_add (isNaN_add (isNaN_mul absent _) _) _) _

end Parts

/-- More seeders than none do not lower the cap. -/
theorem scoreCap_pos (seeders : ℕ) : 0 < scoreCap seeders := by
  have least : 0 < scoreCap 0 := by
    decide +kernel
  have sixty : (0 : Float) ≤ 60.0 := by
    decide
  have ten : (0 : Float) ≤ 10.0 := by
    decide
  have none := seederScore_nonneg 0
  have nothing : seederScore 0 = 0 := rfl
  have more : seederScore 0 ≤ seederScore seeders := nothing ▸ seederScore_nonneg seeders
  have withSeeders := add_le_add_of_nonneg sixty none (le_self (number_of_le_right sixty)) more
  have cap := add_le_add_of_nonneg (zero_le_add sixty none) ten withSeeders
    (le_self (number_of_le_right ten))
  exact lt_of_lt_of_le least cap

namespace Options

variable (options : Options) (release : Release)

/-- The profile answers about the release with what is not a number. -/
def AnswersNoNumber : Prop :=
  ∃ scorer, options.scorer = some scorer ∧
    (scorer (Attributes.ofRelease release options.mediaType)).score.isNaN = true

/-- The quality that enters the score is in its window, unless the profile answers with what is not
a number. -/
theorem quality_bounds (answers : ¬ options.AnswersNoNumber release) :
    0 ≤ (options.parts release).quality ∧ (options.parts release).quality ≤ 100.0 := by
  unfold parts judgement?
  cases given : options.scorer with
  | none =>
    have hundred : Float.ofNat fallbackQualityCap ≤ 100.0 := by
      decide +kernel
    exact ⟨ofNat_nonneg _, le_trans (ofNat_le_ofNat (min_le_right _ _)) hundred⟩
  | some scorer =>
    have number :
        (scorer (Attributes.ofRelease release options.mediaType)).score.isNaN = false := by
      rw [← Bool.not_eq_true]
      intro absent
      exact answers ⟨scorer, given, absent⟩
    exact Scalar.clamp_bounds (by decide) number

/-- An answer that is not a number is the quality. -/
theorem quality_isNaN (answers : options.AnswersNoNumber release) :
    (options.parts release).quality.isNaN = true := by
  obtain ⟨scorer, given, absent⟩ := answers
  unfold parts judgement?
  rw [given]
  change (Scalar.clamp 0.0 100.0 _).isNaN = true
  rw [Scalar.clamp_of_isNaN absent]
  exact absent

/-- The relevance that enters the score is in its window. -/
theorem relevance_bounds
    (inMemory : ∀ query, options.searchQuery = some query → query.length < 2 ^ 63) :
    0 ≤ (options.parts release).relevance ∧ (options.parts release).relevance ≤ 20 := by
  unfold parts
  cases asked : options.searchQuery with
  | none =>
    have none : (0 : Float) ≤ 0.0 ∧ (0.0 : Float) ≤ 20 := by
      decide
    exact none
  | some query =>
    have small := inMemory query asked
    have words := Relevance.length_words_le query
    refine Relevance.Overlap.relevance_bounds _ ?_
    change (Relevance.words query).length ≤ 2 ^ 64
    omega

/-- The score of a release is a number unless the profile answers with what is not a number. As a
number it lies between zero and the cap that its seeders set, and ranks no higher than the cap;
otherwise it keeps neither bound. A query has fewer than `2 ^ 63` characters, as every text in
memory. -/
theorem score_is_bounded_unless_no_number
    (inMemory : ∀ query, options.searchQuery = some query → query.length < 2 ^ 63) :
    ((options.score release).total.isNaN = true ↔ options.AnswersNoNumber release) ∧
      (¬ options.AnswersNoNumber release →
        0 ≤ (options.score release).total ∧
          (options.score release).total ≤ scoreCap release.seeders ∧
          Decimal.rank (options.score release).total ≤ Decimal.rank (scoreCap release.seeders)) ∧
      (options.AnswersNoNumber release →
        ¬ 0 ≤ (options.score release).total ∧
          ¬ (options.score release).total ≤ scoreCap release.seeders) := by
  have total : (options.score release).total = (options.parts release).total Decimal.logarithm :=
    rfl
  have relevance := options.relevance_bounds release inMemory
  have bounds (answers : ¬ options.AnswersNoNumber release) :=
    Parts.total_bounds (options.quality_bounds release answers) relevance
  have absent (answers : options.AnswersNoNumber release) :=
    Parts.isNaN_total (options.quality_isNaN release answers)
  rw [total]
  refine ⟨⟨?number, absent⟩, ?within, ?outside⟩
  case number =>
    intro isNaN
    by_contra answers
    rw [number_of_le_right (bounds answers).1] at isNaN
    cases isNaN
  case within =>
    intro answers
    obtain ⟨nonneg, below⟩ := bounds answers
    exact ⟨nonneg, below, rank_le_rank nonneg below (scoreCap_pos release.seeders)⟩
  case outside =>
    intro answers
    exact ⟨not_le_of_isNaN_right (absent answers), not_le_of_isNaN_left (absent answers)⟩

/-- A profile that answers about every release the same. -/
def answering (answer : Float) : Options :=
  { searchQuery := some "movie", scorer := some fun _ => { score := answer } }

/-- A release that shares the query's only word. -/
def sought (seeders : ℕ) : Release :=
  { title := "Movie", sizeBytes := 1, seeders }

/-- An infinite answer does not lift a score over the cap. -/
theorem infinite_answer_stays_below :
    (∀ query, (answering (1.0 / 0.0)).searchQuery = some query → query.length < 2 ^ 63) ∧
      ((answering (1.0 / 0.0)).score (sought 9)).total ≤ scoreCap 9 := by
  have inMemory : ∀ query, (answering (1.0 / 0.0)).searchQuery = some query →
      query.length < 2 ^ 63 := by
    rintro _ ⟨⟩
    decide
  have answers : ¬ (answering (1.0 / 0.0)).AnswersNoNumber (sought 9) := by
    rintro ⟨_, ⟨⟩, absent⟩
    have number : ((1.0 : Float) / 0.0).isNaN = false := by
      decide +kernel
    rw [number] at absent
    cases absent
  obtain ⟨-, within, -⟩ :=
    score_is_bounded_unless_no_number (answering (1.0 / 0.0)) (sought 9) inMemory
  exact ⟨inMemory, (within answers).2.1⟩

/-- The stored value that is not a number and has no sign. -/
def unsigned : Float :=
  Float.ofBits 0x7FF8000000000000

/-- A profile that knows what to say about releases of a known resolution only. About the others it
answers with the value without a sign that is not a number. -/
def unsure : Options :=
  { scorer := some fun attributes =>
    { score := if attributes.resolution.isSome then 100.0 else unsigned } }

/-- A release with the best answer that the profile can give. -/
def perfect : Release :=
  { title := "Movie", sizeBytes := 1, seeders := 1000,
    quality := some { resolution := some "1080p" } }

/-- A release without seeders that the profile cannot judge. -/
def unjudged : Release :=
  { title := "Other", sizeBytes := 1 }

/-- An answer that is not a number makes a score that is none and that the cap does not bound.
Without a sign, it ranks before the best answer. -/
theorem absent_answer_ranks_first :
    (unsure.score unjudged).total.isNaN = true ∧
      ¬ (unsure.score unjudged).total ≤ scoreCap unjudged.seeders ∧
        (unsure.rank [perfect, unjudged]).map Ranked.release = [unjudged, perfect] := by
  have absent : (unsure.score unjudged).total.isNaN = true := by
    decide +kernel
  have overtaken : unsure.notAfter (unsure.ranked perfect) (unsure.ranked unjudged) = false := by
    decide +kernel
  refine ⟨absent, ?_, ?_⟩
  · intro within
    rw [number_of_le_left within] at absent
    cases absent
  · have kept : unsure.acceptable [perfect, unjudged] = [perfect, unjudged] :=
      rfl
    simp [rank, kept, List.mergeSort, overtaken]
    simp [ranked]

/-- With the best answer and title, the exact sum of the three parts can lie between two floats. The
score is then the upper one, and so is the cap, which is rounded in the same way. -/
theorem rounded_score_exceeds_exact_cap :
    ∃ score seeders : ℚ,
      Amount ((answering 100.0).score (sought 32168576)).total score ∧
        Amount (seederScore 32168576) seeders ∧ 60 + seeders + 10 < score := by
  have total : Amount ((answering 100.0).score (sought 32168576)).total
      ((5104348802637724 : ℕ) * 2 ^ (-45 : ℤ) : ℚ) := by
    have stored : ((answering 100.0).score (sought 32168576)).total =
        Float.ofBits 4639308365366878108 := by
      decide +kernel
    rw [stored]
    exact @Stands.finite 5104348802637724 (-45) (by decide)
  have seeders : Amount (seederScore 32168576) ((5282885512838967 : ℕ) * 2 ^ (-46 : ℤ) : ℚ) := by
    have stored : seederScore 32168576 = Float.ofBits 4634983302449708855 := by
      decide +kernel
    rw [stored]
    exact @Stands.finite 5282885512838967 (-46) (by decide)
  exact ⟨_, _, total, seeders, by norm_num⟩

end Options

end ReleaseFinder
