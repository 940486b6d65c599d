import ReleaseFinder.Proofs.ExactRelevance
import ReleaseFinder.Ranking.Score

/-!
# Better releases score higher

Seeders enter a score three times: they stand in for quality when there is no profile, they have a
part of their own, and without any of them something is taken off. In exact numbers all three go the
same way. Quality and relevance are never negative, so neither the cap on what seeders stand in for
nor the step to the first seeder turns the order around, and what grows strictly is the logarithm.
The formula is the one that the program computes with floats; a profile may be anything that answers
about attributes, and the logarithm any function that grows from zero at one.
-/

namespace ReleaseFinder

/-- Real numbers. -/
noncomputable instance : Scalar ℝ where
  ofNat := Nat.cast
  decidableLT := inferInstance

namespace Scalar

/-- Whole numbers are themselves as reals. -/
theorem ofNat_real (n : ℕ) : (ofNat n : ℝ) = n :=
  rfl

/-- A real is moved into a window by a minimum and a maximum. -/
theorem clamp_real {low high : ℝ} (ordered : low ≤ high) (x : ℝ) :
    clamp low high x = max low (min high x) :=
  window_eq ordered x

end Scalar

/-! ## The formula over any numbers -/

/-- Quality is what the profile answers, moved into its window, or the seeders up to their cap. -/
def qualityFrom {α : Type} [Scalar α] (answer? : Option α) (seeders : ℕ) : α :=
  match answer? with
  | some answer => Scalar.clamp (Scalar.ofNat 0) (Scalar.ofNat 100) answer
  | none => Scalar.ofNat (min seeders fallbackQualityCap)

namespace Options

section

variable {α : Type} [Scalar α] (options : Options) (judge? : Option (Attributes → α))
    (release : Release)

/-- What a profile answers about a release, if there is a profile. -/
def answer? : Option α :=
  judge?.map fun judge => judge (Attributes.ofRelease release options.mediaType)

/-- The relevance of a release to what is searched for. -/
def relevanceOf : α :=
  match options.searchQuery with
  | some query => Relevance.ofTitle release.title query
  | none => Scalar.ofNat 0

/-- What the score of a release is made of, when the profile answers in such numbers. -/
def partsFrom : Parts α :=
  { quality := qualityFrom (options.answer? judge? release) release.seeders
    seeders := release.seeders
    relevance := options.relevanceOf release }

/-- The score of a release, when the profile answers in such numbers. -/
def scoreFrom (logarithm : ℕ → α) : α :=
  (options.partsFrom judge? release).total logarithm

end

/-- The program computes the formula with floats. -/
theorem score_eq_scoreFrom (options : Options) (release : Release) : (options.score release).total =
    options.scoreFrom
      (options.scorer.map fun scorer attributes => (scorer attributes).score) release
      Decimal.logarithm := by
  have zero : (0.0 : Float) = Scalar.ofNat 0 := by decide
  have hundred : (100.0 : Float) = Scalar.ofNat 100 := by decide
  have parts : options.parts release =
      options.partsFrom
        (options.scorer.map fun scorer attributes => (scorer attributes).score) release := by
    rw [Options.parts, partsFrom, relevanceOf, answer?, judgement?, zero, hundred]
    cases options.scorer <;> rfl
  rw [scoreFrom, ← parts]
  rfl

end Options

/-! ## What grows -/

/-- What is asked of a logarithm: it is zero at one and grows from there on. -/
structure IsLogarithm (logarithm : ℕ → ℝ) : Prop where
  at_one : logarithm 1 = 0
  grows : StrictMonoOn logarithm (Set.Ici 1)

namespace Parts

variable {logarithm : ℕ → ℝ} (isLogarithm : IsLogarithm logarithm)

include isLogarithm in
/-- No seeders are no exception: the logarithm of one is zero. -/
theorem seederScore_real (seeders : ℕ) :
    seederScore logarithm seeders = logarithm (seeders + 1) * 10 := by
  rw [seederScore]
  split_ifs with none
  · rw [none, zero_add, isLogarithm.at_one, zero_mul]
    exact Nat.cast_zero
  · rw [Scalar.ofNat_real]
    norm_num

include isLogarithm in
/-- The score of seeders grows with their number, as the logarithm does. -/
theorem seederScore_strictMono : StrictMono (seederScore logarithm) := by
  intro fewer more less
  rw [seederScore_real isLogarithm, seederScore_real isLogarithm]
  have grown : logarithm (fewer + 1) < logarithm (more + 1) :=
    isLogarithm.grows (Nat.le_add_left 1 fewer) (Nat.le_add_left 1 more)
      (Nat.add_lt_add_right less 1)
  linarith

include isLogarithm in
/-- Seeders never count against a release. -/
theorem seederScore_real_nonneg (seeders : ℕ) : 0 ≤ seederScore logarithm seeders := by
  have none : seederScore logarithm 0 = 0 := by
    rw [seederScore_real isLogarithm, isLogarithm.at_one, zero_mul]
  rw [← none]
  exact (seederScore_strictMono isLogarithm).monotone (Nat.zero_le seeders)

/-- The penalty is a positive factor. -/
theorem penalty_pos (seeders : ℕ) : (0 : ℝ) < penalty seeders := by
  rw [penalty, Scalar.ratio]
  split_ifs <;> norm_num [Scalar.ofNat_real]

/-- More seeders do not take more off. -/
theorem penalty_mono : Monotone (penalty : ℕ → ℝ) := by
  intro fewer more least
  by_cases none : fewer = 0
  · rw [penalty, if_pos none, Scalar.ratio, penalty, Scalar.ratio]
    split_ifs <;> norm_num [Scalar.ofNat_real]
  · have some : more ≠ 0 := Nat.ne_of_gt (Nat.lt_of_lt_of_le (Nat.pos_of_ne_zero none) least)
    rw [penalty, if_neg none, penalty, if_neg some]

/-- The three parts together, before anything is taken off. -/
noncomputable def sum (logarithm : ℕ → ℝ) (parts : Parts ℝ) : ℝ :=
  parts.quality * (6 / 10) + seederScore logarithm parts.seeders + parts.relevance / 2

/-- The total is the sum of the parts times the penalty. -/
theorem total_real (parts : Parts ℝ) :
    parts.total logarithm = parts.sum logarithm * penalty parts.seeders := by
  rw [total, sum, qualityPart, titlePart, Scalar.ratio]
  simp only [Scalar.ofNat_real, Nat.cast_ofNat]

/-- Quality and relevance count in favour of a release. -/
structure Nonneg (parts : Parts ℝ) : Prop where
  quality : 0 ≤ parts.quality
  relevance : 0 ≤ parts.relevance

variable {first second : Parts ℝ}

include isLogarithm in
/-- The sum of parts that are not negative is not negative. -/
theorem Nonneg.sum (nonneg : first.Nonneg) : 0 ≤ first.sum logarithm := by
  have seeders := seederScore_real_nonneg isLogarithm first.seeders
  have quality := nonneg.quality
  have relevance := nonneg.relevance
  rw [Parts.sum]
  positivity

include isLogarithm in
/-- Of two releases, the one with more seeders has the higher score, if it is no worse otherwise. -/
theorem total_lt_total (nonneg : first.Nonneg) (seeders : first.seeders < second.seeders)
    (quality : first.quality ≤ second.quality) (relevance : first.relevance ≤ second.relevance) :
    first.total logarithm < second.total logarithm := by
  have grown := seederScore_strictMono isLogarithm seeders
  have more : first.sum logarithm < second.sum logarithm := by
    rw [sum, sum]
    linarith
  rw [total_real, total_real]
  calc first.sum logarithm * penalty first.seeders
      ≤ first.sum logarithm * penalty second.seeders :=
        mul_le_mul_of_nonneg_left (penalty_mono seeders.le) (nonneg.sum isLogarithm)
    _ < second.sum logarithm * penalty second.seeders :=
        mul_lt_mul_of_pos_right more (penalty_pos second.seeders)

/-- With the same seeders, more quality and relevance do not lower the score. -/
theorem total_le_total (seeders : first.seeders = second.seeders)
    (quality : first.quality ≤ second.quality) (relevance : first.relevance ≤ second.relevance) :
    first.total logarithm ≤ second.total logarithm := by
  have more : first.sum logarithm ≤ second.sum logarithm := by
    rw [sum, sum, seeders]
    linarith
  rw [total_real, total_real, seeders]
  exact mul_le_mul_of_nonneg_right more (penalty_pos second.seeders).le

end Parts

/-- An answer is moved into the window from 0 to 100. -/
theorem qualityFrom_some (answer : ℝ) (seeders : ℕ) :
    qualityFrom (some answer) seeders = max 0 (min 100 answer) := by
  have window : (0 : ℝ) ≤ 100 := by norm_num
  rw [← Scalar.clamp_real window, qualityFrom]
  simp only [Scalar.ofNat_real, Nat.cast_zero, Nat.cast_ofNat]

/-- Without a profile, the quality is the number of seeders up to 100. -/
theorem qualityFrom_none (seeders : ℕ) : (qualityFrom none seeders : ℝ) = (min seeders 100 : ℕ) :=
  rfl

/-- The quality is not negative, whatever the profile answers. -/
theorem qualityFrom_nonneg (answer? : Option ℝ) (seeders : ℕ) :
    0 ≤ qualityFrom answer? seeders := by
  cases answer? with
  | none =>
    rw [qualityFrom_none]
    exact Nat.cast_nonneg _
  | some answer =>
    rw [qualityFrom_some]
    exact le_max_left 0 _

/-- A better answer is no less quality, and more seeders do not stand in for less. -/
theorem qualityFrom_mono {answer? better? : Option ℝ} (answers : Option.Rel (· ≤ ·) answer? better?)
    {fewer more : ℕ} (seeders : fewer ≤ more) :
    qualityFrom answer? fewer ≤ qualityFrom better? more := by
  cases answers with
  | none =>
    rw [qualityFrom_none, qualityFrom_none]
    exact Nat.cast_le.mpr (min_le_min_right 100 seeders)
  | some better =>
    rw [qualityFrom_some, qualityFrom_some]
    exact max_le_max_left 0 (min_le_min_left 100 better)

/-- The relevance of an overlap is not negative. -/
theorem Relevance.Overlap.relevance_nonneg (overlap : Overlap) : 0 ≤ (overlap.relevance : ℝ) := by
  have window : (0 : ℝ) ≤ 20 := by norm_num
  by_cases nothing : overlap.asked = 0
  · rw [relevance, if_pos nothing]
    exact Nat.cast_nonneg 0
  · rw [relevance, if_neg nothing]
    simp only [Scalar.ofNat_real, Nat.cast_zero, Nat.cast_ofNat]
    rw [Scalar.clamp_real window]
    exact le_max_left 0 _

namespace Options

variable (options : Options) (judge? : Option (Attributes → ℝ)) (release : Release)

/-- The relevance of a release is not negative, whether there is a query or not. -/
theorem relevanceOf_nonneg : 0 ≤ (options.relevanceOf release : ℝ) := by
  rw [relevanceOf]
  cases options.searchQuery with
  | none => exact Nat.cast_nonneg 0
  | some query => exact (Relevance.Overlap.ofWords _ _).relevance_nonneg

/-- The parts of a score are not negative. -/
theorem nonneg_partsFrom : (options.partsFrom judge? release).Nonneg :=
  ⟨qualityFrom_nonneg _ release.seeders, options.relevanceOf_nonneg release⟩

/-- The score of the program is a formula over any numbers, here the real ones. A release has a
strictly higher score with more seeders and everything else the same, whether or not there is a
profile. With the same number of seeders, a better answer of the profile and more relevance do not
lower the score. -/
theorem better_releases_score_higher {logarithm : ℕ → ℝ} (isLogarithm : IsLogarithm logarithm) :
    (∀ (options : Options) (release : Release), (options.score release).total =
      options.scoreFrom
        (options.scorer.map fun scorer attributes => (scorer attributes).score) release
        Decimal.logarithm) ∧
    (∀ (options : Options) (judge? : Option (Attributes → ℝ)) (release : Release) (fewer more : ℕ),
      fewer < more →
      options.scoreFrom judge? { release with seeders := fewer } logarithm <
        options.scoreFrom judge? { release with seeders := more } logarithm) ∧
    ∀ (options otherOptions : Options) (judge? otherJudge? : Option (Attributes → ℝ))
      (release other : Release), release.seeders = other.seeders →
      Option.Rel (· ≤ ·) (options.answer? judge? release) (otherOptions.answer? otherJudge? other) →
      (options.relevanceOf release : ℝ) ≤ otherOptions.relevanceOf other →
      options.scoreFrom judge? release logarithm ≤
        otherOptions.scoreFrom otherJudge? other logarithm := by
  refine ⟨score_eq_scoreFrom, ?seeders, ?answers⟩
  case seeders =>
    intro options judge? release fewer more less
    -- What a profile answers does not depend on the seeders.
    have same : Option.Rel (· ≤ ·) (options.answer? judge? { release with seeders := fewer })
        (options.answer? judge? { release with seeders := more }) := by
      change Option.Rel (· ≤ ·) (options.answer? judge? release) (options.answer? judge? release)
      cases options.answer? judge? release with
      | none => exact .none
      | some answer => exact .some le_rfl
    apply Parts.total_lt_total isLogarithm
    · exact options.nonneg_partsFrom judge? _
    · exact less
    · exact qualityFrom_mono same less.le
    · exact le_rfl
  case answers =>
    intro options otherOptions judge? otherJudge? release other seeders answers relevance
    exact Parts.total_le_total seeders (qualityFrom_mono answers seeders.le) relevance

end Options

/-- The decimal logarithm grows from zero at one. -/
theorem isLogarithm_logb_ten : IsLogarithm fun n => Real.logb 10 n where
  at_one := by
    rw [Nat.cast_one, Real.logb_one]
  grows := by
    intro fewer atLeast more _ less
    have positive : (0 : ℝ) < fewer := Nat.cast_pos.mpr atLeast
    exact Real.logb_lt_logb (by norm_num) positive (Nat.cast_lt.mpr less)

/-- Options that search for a word. -/
def movieSearch : Options :=
  { searchQuery := some "movie" }

/-- A release of that name. -/
def movieOffer : Release :=
  { title := "Movie", sizeBytes := 1 }

/-- The first seeder counts, and so does the first one beyond the cap. An answer beyond the window
is no worse than one within it. -/
theorem first_seeder_counts :
    (IsLogarithm fun n => Real.logb 10 n) ∧
      (movieSearch.scoreFrom none { movieOffer with seeders := 0 } fun n => Real.logb 10 n) <
        (movieSearch.scoreFrom none { movieOffer with seeders := 1 } fun n => Real.logb 10 n) ∧
      (movieSearch.scoreFrom none { movieOffer with seeders := 100 } fun n => Real.logb 10 n) <
        (movieSearch.scoreFrom none { movieOffer with seeders := 101 } fun n => Real.logb 10 n) ∧
      (movieSearch.scoreFrom (some fun _ => 30) movieOffer fun n => Real.logb 10 n) ≤
        movieSearch.scoreFrom (some fun _ => 120) movieOffer fun n => Real.logb 10 n := by
  obtain ⟨-, seeders, answers⟩ := Options.better_releases_score_higher isLogarithm_logb_ten
  have better : Option.Rel (· ≤ ·) (movieSearch.answer? (some fun _ => (30 : ℝ)) movieOffer)
      (movieSearch.answer? (some fun _ => 120) movieOffer) := .some (by norm_num)
  exact ⟨isLogarithm_logb_ten, seeders movieSearch none movieOffer 0 1 (by decide),
    seeders movieSearch none movieOffer 100 101 (by decide),
    answers movieSearch movieSearch _ _ movieOffer movieOffer rfl better le_rfl⟩

end ReleaseFinder
