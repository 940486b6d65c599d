import ReleaseFinder.Proofs.FloatComparison
import ReleaseFinder.Proofs.RankingOrder

/-!
# Stricter criteria

A release is accepted if it passes four checks, and each check is monotone in what it asks for: more
seeders, a greater share of them, a narrower window of sizes, more blocked tags. So criteria that
ask for no less accept no other releases. Criteria say nothing about scores, nor about the places of
resolutions, and sorting is stable; what stricter criteria leave of a ranking is therefore the
ranking without what they reject.

Bounds are floats and may be no number at all. A least share that is no number refuses no release,
while a bound of the window that is no number refuses every size; a bound counts as no looser
accordingly.
-/

namespace ReleaseFinder

open Sorting

namespace Criteria

/-- The least size that passes, if there is one. -/
def smallest? (criteria : Criteria) : Option Float :=
  criteria.sizeRange.bind (·.minMb)

/-- The greatest size that passes, if there is one. -/
def largest? (criteria : Criteria) : Option Float :=
  criteria.sizeRange.bind (·.maxMb)

/-- The second criteria ask for no less than the first. What the first leave open is free. -/
structure Tightens (criteria stricter : Criteria) : Prop where
  seeders : criteria.minSeeders ≤ stricter.minSeeders
  ratio : ∀ least, criteria.minRatio = some least →
    ∃ more, stricter.minRatio = some more ∧ (least ≤ more ∨ least.isNaN = true)
  smallest : ∀ least, criteria.smallest? = some least →
    ∃ more, stricter.smallest? = some more ∧ (least ≤ more ∨ more.isNaN = true)
  largest : ∀ most, criteria.largest? = some most →
    ∃ less, stricter.largest? = some less ∧ (less ≤ most ∨ less.isNaN = true)
  tags : criteria.blockedTags ⊆ stricter.blockedTags

/-- A release is accepted if it passes all four checks. -/
theorem accepts_eq_true_iff (criteria : Criteria) (release : Release) :
    criteria.accepts release = true ↔
      criteria.minSeeders ≤ release.seeders ∧ criteria.failsRatio release = false ∧
        criteria.failsSize release = false ∧ criteria.hasBlockedTag release = false := by
  rw [accepts, rejection?]
  split_ifs with few share size tag <;> simp_all

/-- The share of seeders fails if there are peers and it is below the least one. -/
theorem failsRatio_eq_true_iff (criteria : Criteria) (release : Release) :
    criteria.failsRatio release = true ↔
      ∃ least, criteria.minRatio = some least ∧ 0 < release.seeders + release.leechers ∧
        Float.ofNat release.seeders / Float.ofNat (release.seeders + release.leechers) < least := by
  simp [failsRatio, Option.any_eq_true]

/-- The size fails if it passes over one of the bounds. -/
theorem failsSize_eq_true_iff (criteria : Criteria) (release : Release) :
    criteria.failsSize release = true ↔
      (∃ least, criteria.smallest? = some least ∧ ¬ least ≤ release.sizeMb) ∨
        ∃ most, criteria.largest? = some most ∧ ¬ release.sizeMb ≤ most := by
  rw [failsSize, smallest?, largest?]
  cases criteria.sizeRange with
  | none => simp
  | some range =>
    obtain ⟨least, most⟩ := range
    cases least <;> cases most <;> simp [SizeRange.contains]

/-- A release passes the tags of two lists if it passes those of each. The other checks ask for the
same. -/
theorem accepts_append (criteria : Criteria) (first second : List String) (release : Release) :
    accepts { criteria with blockedTags := first ++ second } release =
      (accepts { criteria with blockedTags := second } release &&
        accepts { criteria with blockedTags := first } release) := by
  have tags : hasBlockedTag { criteria with blockedTags := first ++ second } release =
      (hasBlockedTag { criteria with blockedTags := first } release ||
        hasBlockedTag { criteria with blockedTags := second } release) := List.any_append
  have share (tags : List String) : failsRatio { criteria with blockedTags := tags } release =
      criteria.failsRatio release := rfl
  have size (tags : List String) : failsSize { criteria with blockedTags := tags } release =
      criteria.failsSize release := rfl
  rw [Bool.eq_iff_iff, Bool.and_eq_true]
  simp only [accepts_eq_true_iff, tags, share, size, Bool.or_eq_false_iff]
  tauto

namespace Tightens

variable {criteria stricter : Criteria} (tightens : criteria.Tightens stricter) {release : Release}
include tightens

/-- A share that is too low stays too low. -/
theorem failsRatio (fails : criteria.failsRatio release = true) :
    stricter.failsRatio release = true := by
  obtain ⟨least, given, peers, below⟩ := (failsRatio_eq_true_iff criteria release).mp fails
  obtain ⟨more, asked, noLess⟩ := tightens.ratio least given
  have within : least ≤ more := by
    rcases noLess with within | absent
    · exact within
    · exact absurd below (Decimal.not_lt_of_isNaN absent)
  have lower := Decimal.lt_of_lt_of_le below within
  exact (failsRatio_eq_true_iff stricter release).mpr ⟨more, asked, peers, lower⟩

/-- A size outside the window stays outside. -/
theorem failsSize (fails : criteria.failsSize release = true) :
    stricter.failsSize release = true := by
  rw [failsSize_eq_true_iff] at fails ⊢
  rcases fails with ⟨least, given, outside⟩ | ⟨most, given, outside⟩
  · obtain ⟨more, asked, noLess⟩ := tightens.smallest least given
    refine Or.inl ⟨more, asked, ?_⟩
    intro inside
    rcases noLess with within | absent
    · exact outside (Decimal.le_trans within inside)
    · exact Decimal.not_le_of_isNaN_left absent inside
  · obtain ⟨less, asked, noMore⟩ := tightens.largest most given
    refine Or.inr ⟨less, asked, ?_⟩
    intro inside
    rcases noMore with within | absent
    · exact outside (Decimal.le_trans inside within)
    · exact Decimal.not_le_of_isNaN_right absent inside

/-- A blocked tag stays blocked. -/
theorem hasBlockedTag (blocked : criteria.hasBlockedTag release = true) :
    stricter.hasBlockedTag release = true := by
  rw [Criteria.hasBlockedTag, List.any_eq_true] at blocked ⊢
  obtain ⟨tag, member, occurs⟩ := blocked
  exact ⟨tag, tightens.tags member, occurs⟩

/-- What the stricter criteria accept, the others accept too. -/
theorem accepts (accepted : stricter.accepts release = true) : criteria.accepts release = true := by
  rw [accepts_eq_true_iff] at accepted ⊢
  simp only [← Bool.not_eq_true] at accepted ⊢
  obtain ⟨seeders, share, size, tags⟩ := accepted
  exact ⟨tightens.seeders.trans seeders, mt tightens.failsRatio share, mt tightens.failsSize size,
    mt tightens.hasBlockedTag tags⟩

end Tightens

end Criteria

namespace Options

/-- The options with other criteria. -/
def withCriteria (options : Options) (criteria : Criteria) : Options :=
  { options with toCriteria := criteria }

/-- The options with other blocked tags. -/
def blocking (options : Options) (tags : List String) : Options :=
  options.withCriteria { options.toCriteria with blockedTags := tags }

/-- Stricter criteria keep those of the acceptable releases that they accept. -/
theorem acceptable_withCriteria (options : Options) {stricter : Criteria}
    (tightens : options.Tightens stricter) (releases : List Release) :
    (options.withCriteria stricter).acceptable releases =
      (options.acceptable releases).filter stricter.accepts := by
  rw [acceptable, acceptable, List.filter_filter]
  apply List.filter_congr
  intro release _
  have implied : stricter.accepts release = true → options.accepts release = true :=
    tightens.accepts
  change stricter.accepts release = (stricter.accepts release && options.accepts release)
  cases accepted : stricter.accepts release with
  | false => rfl
  | true => exact (implied accepted).symm

/-- Stricter criteria keep those of the ranked releases that they accept, in their order and with
their scores. Both lists are stable sorts of what the stricter criteria accept, by keys that
criteria do not enter. -/
theorem rank_withCriteria (options : Options) {stricter : Criteria}
    (tightens : options.Tightens stricter) (releases : List Release) :
    (options.withCriteria stricter).rank releases =
      (options.rank releases).filter fun entry => stricter.accepts entry.release := by
  have kept : (options.withCriteria stricter).survivors releases =
      (options.survivors releases).filter fun entry => stricter.accepts entry.release := by
    rw [← survivors_exact, ← survivors_exact, acceptable_withCriteria options tightens,
      List.filter_map]
    rfl
  have ranked := stableSort_rank (options.withCriteria stricter) releases
  rw [kept] at ranked
  have filtered :=
    (stableSort_rank options releases).filter fun entry => stricter.accepts entry.release
  exact filtered.unique ranked

/-- Filtering again changes nothing. -/
theorem acceptable_acceptable (options : Options) (releases : List Release) :
    options.acceptable (options.acceptable releases) = options.acceptable releases := by
  rw [acceptable, acceptable, List.filter_filter]
  simp only [Bool.and_self]

/-- Tags may be blocked together or one list after the other. -/
theorem acceptable_blocking_append (options : Options) (first second : List String)
    (releases : List Release) :
    (options.blocking (first ++ second)).acceptable releases =
      (options.blocking second).acceptable ((options.blocking first).acceptable releases) := by
  rw [acceptable, acceptable, acceptable, List.filter_filter]
  apply List.filter_congr
  intro release _
  exact Criteria.accepts_append options.toCriteria first second release

/-- Criteria that ask for no less only remove. What they leave of the acceptable releases, and of a
ranking, is what they accept of it, in the same order; the scores in the ranking, with their parts,
are the same. Filtering again removes nothing more, and blocking the tags of two lists is blocking
those of the first and then those of the second. -/
theorem stricter_criteria_only_remove (options : Options) (releases : List Release) :
    (∀ stricter : Criteria, options.Tightens stricter →
      ((options.withCriteria stricter).acceptable releases).Sublist (options.acceptable releases) ∧
        ((options.withCriteria stricter).rank releases).Sublist (options.rank releases) ∧
        (options.withCriteria stricter).rank releases =
          (options.rank releases).filter fun entry => stricter.accepts entry.release) ∧
      options.acceptable (options.acceptable releases) = options.acceptable releases ∧
      ∀ first second : List String,
        (options.blocking (first ++ second)).acceptable releases =
          (options.blocking second).acceptable ((options.blocking first).acceptable releases) := by
  refine ⟨?removed, acceptable_acceptable options releases, ?parts⟩
  case removed =>
    intro stricter tightens
    have ranked := rank_withCriteria options tightens releases
    have kept := acceptable_withCriteria options tightens releases
    refine ⟨kept ▸ List.filter_sublist, ranked ▸ List.filter_sublist, ranked⟩
  case parts =>
    intro first second
    exact acceptable_blocking_append options first second releases

/-- Options that ask for little. -/
def lenient : Options :=
  { minSeeders := 1, minRatio := some 0.25, sizeRange := some { maxMb := some 9000.0 },
    blockedTags := ["cam"] }

/-- Criteria that ask for more of everything. -/
def demanding : Criteria :=
  { minSeeders := 2, minRatio := some 0.5,
    sizeRange := some { minMb := some 100.0, maxMb := some 8000.0 },
    blockedTags := ["ts", "CAM", "cam"] }

/-- Releases of which the second has too few seeders among its peers for the demanding criteria. -/
def offers : List Release :=
  [{ title := "Movie.720p", sizeBytes := 734003200, seeders := 9, leechers := 1 },
    { title := "Movie.1080p", sizeBytes := 734003200, seeders := 3, leechers := 7 }]

/-- The demanding criteria leave one of two releases. -/
theorem demanding_only_remove :
    lenient.Tightens demanding ∧
      ((lenient.withCriteria demanding).rank offers).Sublist (lenient.rank offers) ∧
      ((lenient.withCriteria demanding).acceptable offers).length = 1 ∧
      (lenient.acceptable offers).length = 2 := by
  have tightens : lenient.Tightens demanding := by
    constructor
    · decide
    · rintro least ⟨⟩
      exact ⟨0.5, rfl, Or.inl (by decide)⟩
    · rintro least ⟨⟩
    · rintro most ⟨⟩
      exact ⟨8000.0, rfl, Or.inl (by decide)⟩
    · simp [lenient, demanding]
  have removed := (stricter_criteria_only_remove lenient offers).1 demanding tightens
  exact ⟨tightens, removed.2.1, by decide, by decide⟩

end Options

end ReleaseFinder
