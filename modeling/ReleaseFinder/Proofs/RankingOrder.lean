import ReleaseFinder.Proofs.FloatOrder
import ReleaseFinder.Proofs.StableSort
import ReleaseFinder.Ranking.Basic

/-!
# The order of a ranking

A ranking is the stable sort of the acceptable releases with their scores. Its key is a pair: the
place of the release's resolution among the preferred ones, which is the same for every release when
none is preferred, and then the score, the highest first in the total order of floats. The key of a
release does not depend on the other releases, so the ranking is determined by the list of releases
and the options alone.
-/

namespace ReleaseFinder.Options

open Sorting

/-- What a ranked release is sorted by. The rank of the score is negated, so that lower keys come
first in both components. -/
def orderKey (options : Options) (entry : Ranked) : Nat ×ₗ Int :=
  toLex
    (if options.preferredQualities = [] then 0 else options.preferencePlace entry.release,
      -Decimal.rank entry.score.total)

/-- The acceptable releases with their scores, in the order found. -/
def survivors (options : Options) (releases : List Release) : List Ranked :=
  (releases.filter fun release => decide (options.rejection? release = none)).map fun release =>
    ⟨release, options.score release⟩

/-- A release is acceptable exactly when no check fails. -/
theorem accepts_iff (options : Options) (release : Release) :
    options.accepts release = true ↔ options.rejection? release = none := by
  simp [Criteria.accepts]

/-- The survivors are what the ranking sorts. -/
theorem survivors_exact (options : Options) (releases : List Release) :
    (options.acceptable releases).map options.ranked = options.survivors releases := by
  have same : options.acceptable releases =
      releases.filter fun release => decide (options.rejection? release = none) := by
    refine List.filter_congr ?_
    intro release _
    rw [Bool.eq_iff_iff, accepts_iff, decide_eq_true_iff]
  rw [same]
  rfl

/-- Without preferred resolutions, the order of the keys is that of the scores, highest first. -/
theorem orderKey_le_iff_of_no_preference (options : Options)
    (unrestricted : options.preferredQualities = []) (first second : Ranked) :
    options.orderKey first ≤ options.orderKey second ↔
      Decimal.rank second.score.total ≤ Decimal.rank first.score.total := by
  simp [orderKey, unrestricted, Prod.Lex.toLex_le_toLex]

/-- With preferred resolutions, scores are compared only between releases of one place. -/
theorem orderKey_le_iff_of_preference (options : Options)
    (preferring : options.preferredQualities ≠ []) (first second : Ranked) :
    options.orderKey first ≤ options.orderKey second ↔
      options.preferencePlace first.release < options.preferencePlace second.release ∨
        options.preferencePlace first.release = options.preferencePlace second.release ∧
          Decimal.rank second.score.total ≤ Decimal.rank first.score.total := by
  simp [orderKey, preferring, Prod.Lex.toLex_le_toLex]

/-- The comparison that ranks releases compares their keys. -/
theorem compares_orderKey (options : Options) : Compares options.orderKey options.notAfter := by
  intro first second
  by_cases unrestricted : options.preferredQualities = []
  · rw [orderKey_le_iff_of_no_preference options unrestricted]
    simp [notAfter, scoreNotAfter, unrestricted]
  · rw [orderKey_le_iff_of_preference options unrestricted]
    simp [notAfter, scoreNotAfter, unrestricted]

/-- A ranking is the stable sort of the survivors. -/
theorem stableSort_rank (options : Options) (releases : List Release) :
    StableSort options.orderKey (options.survivors releases) (options.rank releases) := by
  unfold rank
  rw [survivors_exact]
  exact (compares_orderKey options).stableSort_mergeSort _

/-- A release is ranked exactly when it is an acceptable one of the list, with its own score. -/
theorem mem_rank_iff (options : Options) (releases : List Release) (entry : Ranked) :
    entry ∈ options.rank releases ↔
      entry.release ∈ releases ∧ options.rejection? entry.release = none ∧
        entry = options.ranked entry.release := by
  rw [(stableSort_rank options releases).perm.mem_iff, survivors, List.mem_map]
  simp only [List.mem_filter, decide_eq_true_eq]
  constructor
  · rintro ⟨release, ⟨member, accepted⟩, rfl⟩
    exact ⟨member, accepted, rfl⟩
  · rintro ⟨member, accepted, same⟩
    exact ⟨entry.release, ⟨member, accepted⟩, same.symm⟩

/-- Two rankings go through pairs of releases in one order, if the releases of a pair pass the
checks alike and have the same key. -/
theorem rank_in_common_order {first second : Options} {pairs : List (Release × Release)}
    (checked : ∀ pair ∈ pairs, first.accepts pair.1 = second.accepts pair.2)
    (keyed : ∀ pair ∈ pairs, first.orderKey (first.ranked pair.1) =
      second.orderKey (second.ranked pair.2)) :
    ∃ order : List (Release × Release),
      order.Perm (pairs.filter fun pair => first.accepts pair.1) ∧
        first.rank (pairs.map Prod.fst) = order.map (fun pair => first.ranked pair.1) ∧
        second.rank (pairs.map Prod.snd) = order.map (fun pair => second.ranked pair.2) := by
  let kept := pairs.filter fun pair => first.accepts pair.1
  have sameKept : (pairs.filter fun pair => second.accepts pair.2) = kept :=
    List.filter_congr fun pair member => (checked pair member).symm
  have survivors : first.survivors (pairs.map Prod.fst) =
      kept.map fun pair => first.ranked pair.1 := by
    rw [← survivors_exact, acceptable, List.filter_map, List.map_map]
    rfl
  have otherSurvivors : second.survivors (pairs.map Prod.snd) =
      kept.map fun pair => second.ranked pair.2 := by
    rw [← survivors_exact, acceptable, List.filter_map, List.map_map, ← sameKept]
    rfl
  have sorted := stableSort_rank first (pairs.map Prod.fst)
  have otherSorted := stableSort_rank second (pairs.map Prod.snd)
  rw [survivors] at sorted
  rw [otherSurvivors] at otherSorted
  apply sorted.exists_common_order otherSorted
  intro pair member
  exact keyed pair (List.mem_filter.mp member).1

/-- No release has a lower score than a later one, unless the later one has a less preferred
resolution. Scores are compared as numbers here. -/
theorem rank_scores_descend (options : Options) (releases : List Release) :
    (options.rank releases).Pairwise fun first second =>
      first.score.total < second.score.total →
        options.preferredQualities ≠ [] ∧
          options.preferencePlace first.release < options.preferencePlace second.release := by
  refine (stableSort_rank options releases).ordered.imp ?_
  intro first second before less
  have lower := Decimal.rank_lt_rank_of_lt less
  by_cases unrestricted : options.preferredQualities = []
  · rw [orderKey_le_iff_of_no_preference options unrestricted] at before
    omega
  · rw [orderKey_le_iff_of_preference options unrestricted] at before
    exact ⟨unrestricted, by omega⟩

/-- Ranking keeps exactly the releases that no check rejects, as often as they were found and each
with the score that it has on its own. They are ordered by score, the highest first, or by the place
of their resolution among the preferred ones and then by score, so that a lower number never comes
before a higher one of the same place. Releases with equal keys keep the order in which they were
found. No other list has these properties. -/
theorem rank_is_the_stable_sort (options : Options) (releases : List Release) :
    (options.rank releases).Perm
        ((releases.filter fun release => decide (options.rejection? release = none)).map
          fun release => ⟨release, options.score release⟩) ∧
      (options.preferredQualities = [] →
        (options.rank releases).Pairwise fun first second =>
          Decimal.rank second.score.total ≤ Decimal.rank first.score.total) ∧
      (options.preferredQualities ≠ [] →
        (options.rank releases).Pairwise fun first second =>
          options.preferencePlace first.release < options.preferencePlace second.release ∨
            options.preferencePlace first.release = options.preferencePlace second.release ∧
              Decimal.rank second.score.total ≤ Decimal.rank first.score.total) ∧
      ((options.rank releases).Pairwise fun first second =>
        first.score.total < second.score.total →
          options.preferredQualities ≠ [] ∧
            options.preferencePlace first.release < options.preferencePlace second.release) ∧
      (∀ key, level options.orderKey key (options.rank releases) =
        level options.orderKey key (options.survivors releases)) ∧
      ∀ other, StableSort options.orderKey (options.survivors releases) other →
        other = options.rank releases := by
  have sorted := stableSort_rank options releases
  refine ⟨sorted.perm, ?_, ?_, options.rank_scores_descend releases, sorted.stable,
    fun other => sorted.unique⟩
  · intro unrestricted
    refine sorted.ordered.imp ?_
    intro first second before
    exact (orderKey_le_iff_of_no_preference options unrestricted first second).mp before
  · intro preferring
    refine sorted.ordered.imp ?_
    intro first second before
    exact (orderKey_le_iff_of_preference options preferring first second).mp before

end ReleaseFinder.Options
