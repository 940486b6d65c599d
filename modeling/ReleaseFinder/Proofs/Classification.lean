import ReleaseFinder.Engine
import ReleaseFinder.Proofs.RankingViews

/-!
# Classification

Classifying a release gives it the quality that its title names, unless it has one, and nothing
else. No check of acceptance looks at the quality, so releases can be classified before they are
filtered or after. A score looks at it through a profile, and the order of a ranking through
preferred resolutions. Without either, nothing reads it, and lists of releases that differ in
nothing but quality are ranked and explained alike: the sorts go through them in one order, so that
ties fall the same way.
-/

namespace ReleaseFinder

namespace Release

/-- The releases differ in their quality, if at all. -/
def SameButQuality (first second : Release) : Prop :=
  second = { first with quality := second.quality }

/-- What classifying makes of a release. -/
structure ClassifiedAs (before after : Release) : Prop where
  rest : before.SameButQuality after
  kept : ∀ quality, before.quality = some quality → after.quality = some quality
  read : before.quality = none → after.quality = some (Quality.ofTitle before.title)

/-- A release whose quality is known stays as it is. -/
theorem classified_of_some {release : Release} {quality : Quality}
    (known : release.quality = some quality) : release.classified = release := by
  rw [classified, known]

/-- A release without a quality gets the one that its title names. -/
theorem classified_of_none {release : Release} (unknown : release.quality = none) :
    release.classified = { release with quality := some (Quality.ofTitle release.title) } := by
  rw [classified, unknown]

/-- What classifying makes of a release is told by `ClassifiedAs`. -/
theorem classifiedAs_classified (release : Release) : release.ClassifiedAs release.classified := by
  cases known : release.quality with
  | none =>
    rw [classified_of_none known]
    exact ⟨rfl, fun _ impossible => absurd (known.symm.trans impossible) nofun, fun _ => rfl⟩
  | some quality =>
    rw [classified_of_some known]
    exact ⟨rfl, fun _ same => same, fun impossible => absurd (known.symm.trans impossible) nofun⟩

/-- Each release with what classifying makes of it. -/
def besideClassified (releases : List Release) : List (Release × Release) :=
  releases.map fun release => (release, release.classified)

/-- The second release of a pair is what classifying makes of the first. -/
theorem eq_of_mem_besideClassified {releases : List Release} {pair : Release × Release}
    (member : pair ∈ besideClassified releases) : pair.2 = pair.1.classified := by
  obtain ⟨release, -, rfl⟩ := List.mem_map.mp member
  rfl

/-- The releases of a pair differ in their quality, if at all. -/
theorem sameButQuality_besideClassified (releases : List Release) :
    ∀ pair ∈ besideClassified releases, pair.1.SameButQuality pair.2 := by
  intro pair member
  rw [eq_of_mem_besideClassified member]
  exact pair.1.classifiedAs_classified.rest

/-- The first releases of the pairs are the list. -/
theorem besideClassified_fst (releases : List Release) :
    (besideClassified releases).map Prod.fst = releases := by
  rw [besideClassified, List.map_map]
  exact List.map_id releases

/-- The second releases of the pairs are the classified list. -/
theorem besideClassified_snd (releases : List Release) :
    (besideClassified releases).map Prod.snd = releases.map classified := by
  rw [besideClassified, List.map_map]
  rfl

/-- What has been classified has a quality. -/
theorem classified_classified (release : Release) :
    release.classified.classified = release.classified := by
  cases known : release.quality with
  | none =>
    rw [classified_of_none known]
    exact classified_of_some rfl
  | some quality => rw [classified_of_some known, classified_of_some known]

end Release

/-- A ranked release, classified. -/
def Ranked.classified (entry : Ranked) : Ranked :=
  { entry with release := entry.release.classified }

/-- A release with its verdict, classified. -/
def Assessed.classified (entry : Assessed) : Assessed :=
  { entry with release := entry.release.classified }

namespace Options

section

variable (options : Options) {release other : Release} (same : release.SameButQuality other)
include same

/-- No check looks at the quality. -/
theorem rejection?_of_sameButQuality : options.rejection? release = options.rejection? other := by
  rw [same]
  rfl

/-- The checks do not look at the quality. -/
theorem accepts_of_sameButQuality : options.accepts release = options.accepts other := by
  rw [Criteria.accepts, Criteria.accepts, options.rejection?_of_sameButQuality same]

/-- Without a profile, the score does not look at it. -/
theorem score_of_sameButQuality (unprofiled : options.scorer = none) :
    options.score release = options.score other := by
  rw [same, score, score, parts, parts, judgement?, judgement?, unprofiled]
  rfl

/-- Without preferred resolutions, the order does not look at it either. -/
theorem orderKey_of_sameButQuality (unprofiled : options.scorer = none)
    (unrestricted : options.preferredQualities = []) :
    options.orderKey (options.ranked release) = options.orderKey (options.ranked other) := by
  have score := options.score_of_sameButQuality same unprofiled
  simp only [orderKey, ranked, if_pos unrestricted, score]

/-- An explanation says the same about both. -/
theorem assessed_of_sameButQuality (unprofiled : options.scorer = none) :
    options.assessed other = { options.assessed release with release := other } := by
  have score := options.score_of_sameButQuality same unprofiled
  rw [assessed, assessed, options.rejection?_of_sameButQuality same, score]
  cases options.rejection? other <;> rfl

end

variable (options : Options)

/-- Releases are classified before they are filtered or after. -/
theorem acceptable_map_classified (releases : List Release) :
    options.acceptable (releases.map Release.classified) =
      (options.acceptable releases).map Release.classified := by
  have checked (release : Release) : options.accepts release.classified = options.accepts release :=
    (options.accepts_of_sameButQuality release.classifiedAs_classified.rest).symm
  rw [acceptable, acceptable, List.filter_map]
  exact congrArg (List.map Release.classified) (List.filter_congr fun release _ => checked release)

variable {options} (unprofiled : options.scorer = none)
include unprofiled

/-- Releases that differ in nothing but quality are explained in one order, with the same scores and
verdicts. -/
theorem assess_of_sameButQuality {pairs : List (Release × Release)}
    (same : ∀ pair ∈ pairs, pair.1.SameButQuality pair.2) :
    ∃ order : List (Release × Release), order.Perm pairs ∧
      options.assess (pairs.map Prod.fst) = order.map (fun pair => options.assessed pair.1) ∧
      options.assess (pairs.map Prod.snd) =
        order.map fun pair => { options.assessed pair.1 with release := pair.2 } := by
  have assessed (pair : Release × Release) (member : pair ∈ pairs) :=
    options.assessed_of_sameButQuality (same pair member) unprofiled
  have scored (pair : Release × Release) (member : pair ∈ pairs) :
      (options.assessed pair.1).score = (options.assessed pair.2).score := by
    rw [assessed pair member]
  obtain ⟨order, found, first, second⟩ := assess_in_common_order scored
  refine ⟨order, found, first, second.trans ?_⟩
  exact List.map_congr_left fun pair member => assessed pair (found.mem_iff.mp member)

/-- An explanation of classified releases is the explanation, classified. -/
theorem assess_map_classified (releases : List Release) :
    options.assess (releases.map Release.classified) =
      (options.assess releases).map Assessed.classified := by
  have same := Release.sameButQuality_besideClassified releases
  obtain ⟨order, found, plain, classified⟩ := assess_of_sameButQuality unprofiled same
  rw [Release.besideClassified_fst] at plain
  rw [Release.besideClassified_snd] at classified
  rw [plain, classified, List.map_map]
  apply List.map_congr_left
  intro pair member
  have own := Release.eq_of_mem_besideClassified (found.mem_iff.mp member)
  rw [Function.comp_apply, Assessed.classified, options.assessed_release pair.1, own]

variable (unrestricted : options.preferredQualities = [])
include unrestricted

/-- Releases that differ in nothing but quality are ranked in one order, with the same scores. -/
theorem rank_of_sameButQuality {pairs : List (Release × Release)}
    (same : ∀ pair ∈ pairs, pair.1.SameButQuality pair.2) :
    ∃ order : List (Release × Release),
      order.Perm (pairs.filter fun pair => options.accepts pair.1) ∧
        options.rank (pairs.map Prod.fst) = order.map (fun pair => options.ranked pair.1) ∧
        options.rank (pairs.map Prod.snd) =
          order.map (fun pair => { options.ranked pair.1 with release := pair.2 }) := by
  have checked (pair : Release × Release) (member : pair ∈ pairs) :=
    options.accepts_of_sameButQuality (same pair member)
  have keyed (pair : Release × Release) (member : pair ∈ pairs) :=
    options.orderKey_of_sameButQuality (same pair member) unprofiled unrestricted
  obtain ⟨order, found, first, second⟩ := rank_in_common_order checked keyed
  refine ⟨order, found, first, second.trans ?_⟩
  apply List.map_congr_left
  intro pair member
  have among : pair ∈ pairs := (List.mem_filter.mp (found.mem_iff.mp member)).1
  rw [ranked, ranked, options.score_of_sameButQuality (same pair among) unprofiled]

/-- A ranking of classified releases is the ranking, classified. -/
theorem rank_map_classified (releases : List Release) :
    options.rank (releases.map Release.classified) =
      (options.rank releases).map Ranked.classified := by
  have same := Release.sameButQuality_besideClassified releases
  obtain ⟨order, found, plain, classified⟩ := rank_of_sameButQuality unprofiled unrestricted same
  rw [Release.besideClassified_fst] at plain
  rw [Release.besideClassified_snd] at classified
  rw [plain, classified, List.map_map]
  apply List.map_congr_left
  intro pair member
  have own := Release.eq_of_mem_besideClassified (List.mem_filter.mp (found.mem_iff.mp member)).1
  rw [Function.comp_apply, Ranked.classified, ranked, own]

omit unprofiled unrestricted

/-- Classifying keeps the releases in their places with everything but a quality that is missing,
and classifying again changes nothing. Filtering goes before it or after. Without a profile and
preferred resolutions, classified releases are ranked and explained as they are without it, and so
are any two lists of releases that differ in nothing but quality: both go through them in one order,
ties included, with the same scores and verdicts. -/
theorem classification_concerns_quality_only :
    (∀ releases : List Release,
      (∀ tally, ((Engine.classify releases).run tally).1 = releases.map Release.classified) ∧
      List.Forall₂ Release.ClassifiedAs releases (releases.map Release.classified) ∧
      (releases.map Release.classified).map Release.classified = releases.map Release.classified ∧
      ∀ options : Options, options.acceptable (releases.map Release.classified) =
        (options.acceptable releases).map Release.classified) ∧
    ∀ options : Options, options.scorer = none → options.preferredQualities = [] →
      (∀ releases : List Release,
        options.rank (releases.map Release.classified) =
          (options.rank releases).map Ranked.classified ∧
        options.assess (releases.map Release.classified) =
          (options.assess releases).map Assessed.classified) ∧
      ∀ pairs : List (Release × Release), (∀ pair ∈ pairs, pair.1.SameButQuality pair.2) →
        (∃ order : List (Release × Release),
          order.Perm (pairs.filter fun pair => options.accepts pair.1) ∧
            options.rank (pairs.map Prod.fst) = order.map (fun pair => options.ranked pair.1) ∧
            options.rank (pairs.map Prod.snd) =
              order.map fun pair => { options.ranked pair.1 with release := pair.2 }) ∧
        ∃ order : List (Release × Release), order.Perm pairs ∧
          options.assess (pairs.map Prod.fst) = order.map (fun pair => options.assessed pair.1) ∧
          options.assess (pairs.map Prod.snd) =
            order.map fun pair => { options.assessed pair.1 with release := pair.2 } := by
  constructor
  · intro releases
    refine ⟨fun _ => rfl, ?each, ?again, fun options => options.acceptable_map_classified releases⟩
    case each =>
      rw [List.forall₂_map_right_iff, List.forall₂_same]
      exact fun release _ => release.classifiedAs_classified
    case again =>
      rw [List.map_map]
      exact List.map_congr_left fun release _ => release.classified_classified
  · intro options unprofiled unrestricted
    constructor
    · intro releases
      exact ⟨rank_map_classified unprofiled unrestricted releases,
        assess_map_classified unprofiled releases⟩
    · intro pairs same
      exact ⟨rank_of_sameButQuality unprofiled unrestricted same,
        assess_of_sameButQuality unprofiled same⟩

end Options

end ReleaseFinder
