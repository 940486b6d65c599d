import ReleaseFinder.Proofs.RankingOrder
import ReleaseFinder.Ranking.Record

/-!
# Four views of one list

A list of releases is filtered, ranked, explained, or reduced to its best release. The explanation
keeps what is rejected and sorts everything by score, so it interleaves rejected releases, whose
score is zero, with acceptable ones that may have a score of zero too. Sorting is stable and
commutes with dropping members, and that is why the accepted part of an explanation is the ranking
itself whenever no resolution is preferred.
-/

namespace ReleaseFinder

open Sorting

/-- What an explanation says of a ranked release. -/
def Ranked.explained (entry : Ranked) : Assessed :=
  ⟨entry.release, entry.score.total, .accepted entry.score.breakdown⟩

/-- What rankings without preferred resolutions are sorted by. -/
def Ranked.scoreKey (entry : Ranked) : Int := -Decimal.rank entry.score.total

/-- What explanations are sorted by. -/
def Assessed.scoreKey (entry : Assessed) : Int := -Decimal.rank entry.score

/-- The entry was not rejected. -/
def Assessed.isAccepted (entry : Assessed) : Bool := entry.rejection?.isNone

namespace Options

/-- A rejected release is marked with its reason and has no score. -/
theorem assessed_of_rejected (options : Options) (release : Release) (reason : Rejection)
    (rejected : options.rejection? release = some reason) :
    options.assessed release = ⟨release, 0.0, .rejected reason⟩ := by
  simp [assessed, rejected]

/-- An acceptable release is explained as it is ranked. -/
theorem assessed_of_accepted (options : Options) (release : Release)
    (accepted : options.rejection? release = none) :
    options.assessed release = (options.ranked release).explained := by
  simp [assessed, accepted, Ranked.explained, ranked]

/-- An explanation names the release that it explains. -/
theorem assessed_release (options : Options) (release : Release) :
    (options.assessed release).release = release := by
  cases verdict : options.rejection? release with
  | none => rw [assessed_of_accepted options release verdict]; rfl
  | some reason => rw [assessed_of_rejected options release reason verdict]

/-- An entry counts as accepted exactly when no check rejects its release. -/
theorem assessed_isAccepted (options : Options) (release : Release) :
    (options.assessed release).isAccepted = decide (options.rejection? release = none) := by
  cases verdict : options.rejection? release with
  | none =>
    rw [assessed_of_accepted options release verdict]
    rfl
  | some reason =>
    rw [assessed_of_rejected options release reason verdict]
    rfl

/-- The accepted entries of an unsorted explanation are the survivors in the order found. -/
theorem filter_assessed (options : Options) (releases : List Release) :
    (releases.map options.assessed).filter Assessed.isAccepted =
      (options.survivors releases).map Ranked.explained := by
  unfold survivors
  rw [List.filter_map, List.map_map]
  have kept : releases.filter (Assessed.isAccepted ∘ options.assessed) =
      releases.filter fun release => decide (options.rejection? release = none) :=
    List.filter_congr fun release _ => assessed_isAccepted options release
  rw [kept]
  refine List.map_congr_left ?_
  intro release member
  have accepted : options.rejection? release = none := by
    simpa using (List.mem_filter.mp member).2
  exact assessed_of_accepted options release accepted

/-- An explanation is the stable sort of the assessed releases by their scores. -/
theorem stableSort_assess (options : Options) (releases : List Release) :
    StableSort Assessed.scoreKey (releases.map options.assessed) (options.assess releases) := by
  refine Compares.stableSort_mergeSort ?_ _
  intro first second
  simp [scoreNotAfter, Assessed.scoreKey]

/-- Two explanations go through pairs of releases in one order, if the releases of a pair have the
same score. -/
theorem assess_in_common_order {first second : Options} {pairs : List (Release × Release)}
    (scored : ∀ pair ∈ pairs, (first.assessed pair.1).score = (second.assessed pair.2).score) :
    ∃ order : List (Release × Release), order.Perm pairs ∧
      first.assess (pairs.map Prod.fst) = order.map (fun pair => first.assessed pair.1) ∧
      second.assess (pairs.map Prod.snd) = order.map (fun pair => second.assessed pair.2) := by
  have sorted := stableSort_assess first (pairs.map Prod.fst)
  have otherSorted := stableSort_assess second (pairs.map Prod.snd)
  rw [List.map_map] at sorted otherSorted
  apply sorted.exists_common_order otherSorted
  intro pair member
  exact congrArg (fun score => -Decimal.rank score) (scored pair member)

/-- Without preferred resolutions, a ranking is the stable sort of the survivors by their scores. -/
theorem stableSort_rank_of_no_preference (options : Options) (releases : List Release)
    (unrestricted : options.preferredQualities = []) :
    StableSort Ranked.scoreKey (options.survivors releases) (options.rank releases) := by
  unfold rank
  rw [survivors_exact]
  refine Compares.stableSort_mergeSort ?_ _
  intro first second
  simp [notAfter, scoreNotAfter, Ranked.scoreKey, unrestricted]

/-- An explanation has one entry for each release, and every entry is the release's own. -/
theorem mem_assess_iff (options : Options) (releases : List Release) (entry : Assessed) :
    entry ∈ options.assess releases ↔
      entry.release ∈ releases ∧ entry = options.assessed entry.release := by
  rw [(stableSort_assess options releases).perm.mem_iff, List.mem_map]
  constructor
  · rintro ⟨release, member, rfl⟩
    rw [assessed_release]
    exact ⟨member, rfl⟩
  · rintro ⟨member, same⟩
    exact ⟨entry.release, member, same.symm⟩

/-- The releases of a ranking are the survivors' in another order. -/
theorem map_release_rank_perm (options : Options) (releases : List Release) :
    ((options.rank releases).map Ranked.release).Perm (options.acceptable releases) := by
  have sorted := (stableSort_rank options releases).perm.map Ranked.release
  have found : (options.survivors releases).map Ranked.release = options.acceptable releases := by
    rw [← survivors_exact, List.map_map]
    exact List.map_id _
  rwa [found] at sorted

/-- The releases of an explanation are all the releases in another order. -/
theorem map_release_assess_perm (options : Options) (releases : List Release) :
    ((options.assess releases).map Assessed.release).Perm releases := by
  have sorted := (stableSort_assess options releases).perm.map Assessed.release
  have found : (releases.map options.assessed).map Assessed.release = releases := by
    rw [List.map_map]
    refine (List.map_congr_left fun release _ => assessed_release options release).trans ?_
    exact List.map_id _
  rwa [found] at sorted

/-- The accepted entries of an explanation are the ranking's in some order. -/
theorem filter_assess_perm (options : Options) (releases : List Release) :
    ((options.assess releases).filter Assessed.isAccepted).Perm
      ((options.rank releases).map Ranked.explained) := by
  have assessed := (stableSort_assess options releases).perm.filter Assessed.isAccepted
  rw [filter_assessed] at assessed
  exact assessed.trans ((stableSort_rank options releases).perm.map Ranked.explained).symm

/-- Without preferred resolutions they come in the ranking's order. Both lists are stable sorts of
the survivors by score: one drops the rejected releases after sorting, the other before. -/
theorem filter_assess_eq (options : Options) (releases : List Release)
    (unrestricted : options.preferredQualities = []) :
    (options.assess releases).filter Assessed.isAccepted =
      (options.rank releases).map Ranked.explained := by
  have assessed := (stableSort_assess options releases).filter Assessed.isAccepted
  rw [filter_assessed] at assessed
  have ranked : StableSort Assessed.scoreKey ((options.survivors releases).map Ranked.explained)
      ((options.rank releases).map Ranked.explained) :=
    (stableSort_rank_of_no_preference options releases unrestricted).map Ranked.explained
      Assessed.scoreKey fun _ _ => rfl
  exact ranked.unique assessed

/-- There is no best release exactly when no release is acceptable. -/
theorem best?_eq_none_iff (options : Options) (releases : List Release) :
    options.best? releases = none ↔ options.acceptable releases = [] := by
  unfold best?
  have sameLength := (map_release_rank_perm options releases).length_eq
  rw [List.length_map] at sameLength
  rw [List.head?_eq_none_iff, ← List.length_eq_zero_iff, sameLength, List.length_eq_zero_iff]

/-- Filtering, ranking, explaining and choosing agree. An explanation mentions every release once: a
rejected one with its reason and a score of zero, an acceptable one with exactly the score and the
breakdown that the ranking gives it. Its accepted entries are the ranking, in the ranking's order
when no resolution is preferred. The ranked releases are the filtered ones, and the best release is
the first of them. -/
theorem views_agree (options : Options) (releases : List Release) :
    (((options.assess releases).map Assessed.release).Perm releases ∧
      ∀ entry ∈ options.assess releases,
        (∀ reason, options.rejection? entry.release = some reason →
          entry.verdict = .rejected reason ∧ entry.score = 0.0) ∧
        (options.rejection? entry.release = none →
          (∃ ranked ∈ options.rank releases, ranked.release = entry.release) ∧
          ∀ ranked ∈ options.rank releases, ranked.release = entry.release →
            entry.verdict = .accepted ranked.score.breakdown ∧
              entry.score = ranked.score.total)) ∧
      ((options.preferredQualities = [] →
          (options.assess releases).filter Assessed.isAccepted =
            (options.rank releases).map Ranked.explained) ∧
        ((options.assess releases).filter Assessed.isAccepted).Perm
          ((options.rank releases).map Ranked.explained)) ∧
      ((options.rank releases).map Ranked.release).Perm (options.acceptable releases) ∧
      options.best? releases = (options.rank releases).head? ∧
      (options.best? releases = none ↔ options.acceptable releases = []) := by
  refine ⟨⟨map_release_assess_perm options releases, ?_⟩,
    ⟨filter_assess_eq options releases, filter_assess_perm options releases⟩,
    map_release_rank_perm options releases, rfl, best?_eq_none_iff options releases⟩
  intro entry member
  obtain ⟨found, own⟩ := (mem_assess_iff options releases entry).mp member
  refine ⟨?_, ?_⟩
  · intro reason rejected
    rw [own, assessed_of_rejected options _ reason rejected]
    exact ⟨rfl, rfl⟩
  · intro accepted
    rw [assessed_of_accepted options _ accepted] at own
    refine ⟨⟨options.ranked entry.release, ?_, rfl⟩, ?_⟩
    · exact (mem_rank_iff options releases _).mpr ⟨found, accepted, rfl⟩
    · intro ranked rankedMember same
      obtain ⟨_, _, rankedOwn⟩ := (mem_rank_iff options releases ranked).mp rankedMember
      have agree : entry = ranked.explained := by
        rw [rankedOwn, same]
        exact own
      rw [agree]
      exact ⟨rfl, rfl⟩

end Options

end ReleaseFinder
