import ReleaseFinder.Proofs.SigmaForms
import ReleaseFinder.Ranking.Acceptance

/-!
# Blocked tags

A tag is looked for in a title after both have been put in lower case, each on its own. A title that
has the tag therefore need not have it in lower case: the sigma of `ΑΣ` is final in the tag and not
in `ΑΣΑ`, which passes. A tag is found wherever its sigmas take the forms that they take in the tag
alone. This is so in every title exactly for the settled tags, and any tag that is not settled is
missed in some title.
-/

namespace ReleaseFinder.Criteria

open Text

/-- The release is rejected, and for its tags if it passes all other checks. -/
structure RejectsForTag (criteria : Criteria) (release : Release) : Prop where
  rejected : criteria.rejection? release ≠ none
  reason : criteria.minSeeders ≤ release.seeders → criteria.failsRatio release = false →
    criteria.failsSize release = false → criteria.rejection? release = some .blockedTag

/-- A blocked tag is found in a title if it is more than blanks and stands in it in lower case. -/
theorem hasBlockedTag_eq_true_iff (criteria : Criteria) (release : Release) :
    criteria.hasBlockedTag release = true ↔
      ∃ tag ∈ criteria.blockedTags, tagText tag ≠ [] ∧
        lowerChars (tagText tag) <:+: lowerChars release.title.toList := by
  simp [hasBlockedTag, occurs_iff]

/-- Tags are looked at last, so what is found there decides only what the other checks have
passed. -/
theorem rejectsForTag_of_hasBlockedTag {criteria : Criteria} {release : Release}
    (found : criteria.hasBlockedTag release = true) : criteria.RejectsForTag release := by
  constructor
  · rw [rejection?, if_pos found]
    split_ifs <;> simp
  · intro seeders share size
    rw [rejection?, if_neg (Nat.not_lt.mpr seeders), share, size, if_pos found]
    rfl

/-- Criteria that only block a tag reject the titles that have the tag in lower case. -/
theorem infix_lowerChars_of_rejected {tag title : String}
    (rejected : ({ blockedTags := [tag] } : Criteria).rejection? { title, sizeBytes := 1 } ≠ none) :
    lowerChars (tagText tag) <:+: lowerChars title.toList := by
  by_contra absent
  apply rejected
  have missed :
      ({ blockedTags := [tag] } : Criteria).hasBlockedTag { title, sizeBytes := 1 } = false := by
    rw [← Bool.not_eq_true, hasBlockedTag_eq_true_iff]
    simp [absent]
  rw [rejection?, missed]
  rfl

/-- A blocked tag rejects a title that it stands in if the title leaves the forms of its sigmas as
they are. It rejects all titles that it stands in exactly if it is settled, as a tag without capital
sigmas is. -/
theorem blocked_tag_rejects_iff_settled (tag : String) :
    (∀ (criteria : Criteria) (release : Release) (before after : List Char),
      tag ∈ criteria.blockedTags → tagText tag ≠ [] →
      release.title.toList = before ++ tagText tag ++ after →
      wordEnds before.reverse (tagText tag) after = wordEnds [] (tagText tag) [] →
      criteria.RejectsForTag release) ∧
    ((∀ (criteria : Criteria) (release : Release), tag ∈ criteria.blockedTags → tagText tag ≠ [] →
      tagText tag <:+: release.title.toList → criteria.RejectsForTag release) ↔
        Settled (tagText tag)) ∧
    ('Σ' ∉ tagText tag → Settled (tagText tag)) := by
  refine ⟨?kept, ⟨?necessary, ?sufficient⟩, settled_of_not_mem⟩
  case kept =>
    intro criteria release before after blocked inhabited title ends
    have found := infix_lowerChars_of_wordEnds_eq ends
    rw [← title] at found
    exact rejectsForTag_of_hasBlockedTag
      ((hasBlockedTag_eq_true_iff criteria release).mpr ⟨tag, blocked, inhabited, found⟩)
  case necessary =>
    intro rejects
    rw [← infix_lowerChars_iff_settled]
    intro text within
    by_cases inhabited : tagText tag = []
    · rw [inhabited]
      exact List.nil_infix
    · have title : (String.ofList text).toList = text := String.toList_ofList
      have rejected :=
        (rejects { blockedTags := [tag] } { title := String.ofList text, sizeBytes := 1 }
        List.mem_cons_self inhabited (title.symm ▸ within)).rejected
      have found := infix_lowerChars_of_rejected rejected
      rwa [title] at found
  case sufficient =>
    intro settled criteria release blocked inhabited within
    have found := (infix_lowerChars_iff_settled (tagText tag)).mpr settled _ within
    exact rejectsForTag_of_hasBlockedTag
      ((hasBlockedTag_eq_true_iff criteria release).mpr ⟨tag, blocked, inhabited, found⟩)

/-- A tag of three letters with a blank behind it rejects the title that has the letters within a
word. -/
theorem cam_is_rejected :
    Settled (tagText "CAM ") ∧
      RejectsForTag { blockedTags := ["", "CAM "] }
        { title := "Movie.2023.HDCAM.x264", sizeBytes := 1 } := by
  obtain ⟨-, iff, absent⟩ := blocked_tag_rejects_iff_settled "CAM "
  have settled := absent (by decide)
  exact ⟨settled, iff.mpr settled _ _ (by decide) (by decide) (by decide)⟩

/-- The tag that ends with a sigma passes in the title where a letter follows it. -/
theorem tag_before_letter_is_missed :
    tagText "ΑΣ" ≠ [] ∧ tagText "ΑΣ" <:+: "ΑΣΑ".toList ∧
      rejection? { blockedTags := ["ΑΣ"] } { title := "ΑΣΑ", sizeBytes := 1 } = none := by
  refine ⟨by decide, by decide, ?_⟩
  decide +kernel

end ReleaseFinder.Criteria
