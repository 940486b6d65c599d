import ReleaseFinder.Proofs.TitleLabels
import ReleaseFinder.Quality.Points

/-!
# The points of labels

Rules and points are kept in two places. The rules give the first label whose pattern occurs in a
title, and the points say what a label is worth, and nothing but the spelling of the labels connects
the two. They agree: every label of the rules has points, and down the tables of resolutions,
codecs, sounds and high dynamic range the points never grow. So the first label that is earned is
one with the most points among all that could be.

The sources are the exception. `WEBRip` stands before `WEB-DL`, which has more points, because the
pattern of the latter also finds the `WEB` in `WEB-Rip`.
-/

namespace ReleaseFinder.Quality

open Pattern

/-- The label is one of a rule whose pattern occurs in the title. It has points, and none of the
labels of such rules has more. Without a label, no pattern of the table occurs. -/
def EarnsMost (table : List (String × Nat)) (rules : List Rule) (title : String) :
    Option String → Prop
  | some label => (∃ rule ∈ rules, rule.label = label ∧ rule.pattern.Occurs title.toList) ∧
      0 < pointsIn table label ∧
      ∀ rule ∈ rules, rule.pattern.Occurs title.toList →
        pointsIn table rule.label ≤ pointsIn table label
  | none => ∀ rule ∈ rules, ¬ rule.pattern.Occurs title.toList

section Tables

variable {table : List (String × Nat)} {rules : List Rule}

/-- A label is found by a rule that stands before all others whose patterns occur. -/
theorem firstLabel?_before {related : Rule → Rule → Prop} (ordered : rules.Pairwise related)
    {title label : String} (found : firstLabel? rules title.toList = some label) :
    ∃ rule ∈ rules, rule.label = label ∧ rule.pattern.Occurs title.toList ∧
      ∀ other ∈ rules, other.pattern.Occurs title.toList → other = rule ∨ related rule other := by
  obtain ⟨before, rule, after, rfl, named, occurs, absent⟩ := (firstLabel?_eq_iff ..).mp found
  refine ⟨rule, by simp, named, occurs, ?_⟩
  intro other member otherOccurs
  rcases List.mem_append.mp member with member | member
  · exact absurd otherOccurs (absent other member)
  · have following := (List.pairwise_append.mp ordered).2.1
    exact (List.mem_cons.mp member).imp_right ((List.pairwise_cons.mp following).1 other)

/-- A label is found by a rule of the table. -/
theorem mem_labels_of_firstLabel? {title label : String}
    (found : firstLabel? rules title.toList = some label) : ∃ rule ∈ rules, rule.label = label := by
  obtain ⟨rule, inTable, named, -⟩ :=
    firstLabel?_before (List.pairwise_of_forall fun _ _ => trivial) found
  exact ⟨rule, inTable, named⟩

section Worth

variable (table rules) (worth : ∀ rule ∈ rules, 0 < pointsIn table rule.label)
include worth

/-- The first label that is earned has the most points, or is an exception: one of the labels below
which the points of the table may grow again. -/
theorem earnsMost_or_exception {exceptions : List String}
    (ordered : rules.Pairwise fun rule later =>
      rule.label ∈ exceptions ∨ pointsIn table later.label ≤ pointsIn table rule.label)
    (title : String) :
    EarnsMost table rules title (firstLabel? rules title.toList) ∨
      ∃ label ∈ exceptions, firstLabel? rules title.toList = some label := by
  cases found : firstLabel? rules title.toList with
  | none => exact Or.inl ((firstLabel?_eq_iff ..).mp found)
  | some label =>
    obtain ⟨rule, inTable, rfl, occurs, others⟩ := firstLabel?_before ordered found
    by_cases exceptional : rule.label ∈ exceptions
    · exact Or.inr ⟨rule.label, exceptional, rfl⟩
    · refine Or.inl ⟨⟨rule, inTable, rfl, occurs⟩, worth rule inTable, ?_⟩
      intro other member otherOccurs
      rcases others other member otherOccurs with rfl | listed | below
      · exact le_rfl
      · exact absurd listed exceptional
      · exact below

/-- Where points never grow down a table, the first label that is earned has the most. -/
theorem earnsMost_firstLabel?
    (descending : rules.Pairwise fun rule later =>
      pointsIn table later.label ≤ pointsIn table rule.label)
    (title : String) : EarnsMost table rules title (firstLabel? rules title.toList) := by
  have ordered : rules.Pairwise fun rule later =>
      rule.label ∈ [] ∨ pointsIn table later.label ≤ pointsIn table rule.label :=
    descending.imp Or.inr
  simpa using earnsMost_or_exception table rules worth ordered title

/-- A label that is found has points. -/
theorem labelPoints_firstLabel?_pos_iff (title : String) :
    0 < labelPoints table (firstLabel? rules title.toList) ↔
      (firstLabel? rules title.toList).isSome = true := by
  cases found : firstLabel? rules title.toList with
  | none => simp [labelPoints]
  | some label =>
    obtain ⟨rule, inTable, rfl⟩ := mem_labels_of_firstLabel? found
    exact iff_of_true (worth rule inTable) rfl

end Worth

/-- No label has more points than the most that the table lists. -/
theorem labelPoints_le {most : Nat} (listed : ∀ entry ∈ table, entry.2 ≤ most)
    (label : Option String) : labelPoints table label ≤ most := by
  cases label with
  | none => exact Nat.zero_le most
  | some label =>
    change (table.lookup label).getD 0 ≤ most
    cases found : table.lookup label with
    | none => exact Nat.zero_le most
    | some value =>
      obtain ⟨before, after, rfl, -⟩ := List.lookup_eq_some_iff.mp found
      exact listed (label, value) (by simp)

end Tables

/-- No attributes have more points than the best of each table with both bonuses. -/
theorem points_le (quality : Quality) : points quality ≤ 1990 := by
  have resolution : labelPoints resolutionTable quality.resolution ≤ 1000 :=
    labelPoints_le (by decide) _
  have source : labelPoints sourceTable quality.source ≤ 500 := labelPoints_le (by decide) _
  have codec : labelPoints codecTable quality.codec ≤ 150 := labelPoints_le (by decide) _
  have audio : labelPoints audioTable quality.audio ≤ 200 := labelPoints_le (by decide) _
  have hdrFormat : labelPoints hdrTable quality.hdrFormat ≤ 100 := labelPoints_le (by decide) _
  have proper : (if quality.proper then properBonus else 0) ≤ 25 := by split <;> decide
  have repack : (if quality.repack then repackBonus else 0) ≤ 15 := by split <;> decide
  unfold points
  omega

/-- Attributes have no points exactly if no label has any and no bonus is due. -/
theorem points_eq_zero_iff (quality : Quality) :
    points quality = 0 ↔
      labelPoints resolutionTable quality.resolution = 0 ∧
        labelPoints sourceTable quality.source = 0 ∧
        labelPoints codecTable quality.codec = 0 ∧ labelPoints audioTable quality.audio = 0 ∧
        labelPoints hdrTable quality.hdrFormat = 0 ∧ quality.proper = false ∧
          quality.repack = false := by
  have proper : (if quality.proper then properBonus else 0) = 0 ↔ quality.proper = false := by
    cases quality.proper <;> decide
  have repack : (if quality.repack then repackBonus else 0) = 0 ↔ quality.repack = false := by
    cases quality.repack <;> decide
  simp only [points, Nat.add_eq_zero_iff, proper, repack, and_assoc]

/-- A title has no points exactly if nothing is known of it. -/
theorem points_ofTitle_eq_zero_iff (title : String) :
    points (ofTitle title) = 0 ↔ (ofTitle title).isUnknown = true := by
  have unknown (table : List (String × Nat)) (rules : List Rule)
      (worth : ∀ rule ∈ rules, 0 < pointsIn table rule.label) :
      labelPoints table (firstLabel? rules title.toList) = 0 ↔
        (firstLabel? rules title.toList).isSome = false := by
    rw [← Nat.le_zero, ← Nat.not_lt, labelPoints_firstLabel?_pos_iff table rules worth,
      Bool.not_eq_true]
  have resolution := unknown resolutionTable resolutionRules (by decide)
  have source := unknown sourceTable sourceRules (by decide)
  have codec := unknown codecTable codecRules (by decide)
  have audio := unknown audioTable audioRules (by decide)
  have hdr := unknown hdrTable hdrRules (by decide)
  rw [points_eq_zero_iff]
  simp only [isUnknown, ofTitle, resolution, source, codec, audio, hdr, Bool.and_eq_true,
    Bool.not_eq_true', ← Option.not_isSome, and_assoc, and_self_left]

/-- The source has the most points, but for a `WEBRip` whose title may say `WEB-DL` as well. -/
theorem source_earnsMost (title : String) :
    EarnsMost sourceTable sourceRules title (ofTitle title).source ∨
      (ofTitle title).source = some "WEBRip" := by
  have ordered : sourceRules.Pairwise fun rule later =>
      rule.label ∈ ["WEBRip"] ∨
        pointsIn sourceTable later.label ≤ pointsIn sourceTable rule.label := by
    decide
  simp only [ofTitle]
  simpa using earnsMost_or_exception sourceTable sourceRules (by decide) ordered title

/-- The labels of a title, other than its source, have the most points among all whose patterns
occur in it; so has the source, unless it is `WEBRip`. Every label has points, a title is in high
dynamic range if it names a format, it has no points exactly if nothing is known of it, and never
more than 1990. -/
theorem labels_earn_the_most_points (title : String) :
    EarnsMost resolutionTable resolutionRules title (ofTitle title).resolution ∧
      EarnsMost codecTable codecRules title (ofTitle title).codec ∧
      EarnsMost audioTable audioRules title (ofTitle title).audio ∧
      EarnsMost hdrTable hdrRules title (ofTitle title).hdrFormat ∧
      (EarnsMost sourceTable sourceRules title (ofTitle title).source ∨
        (ofTitle title).source = some "WEBRip") ∧
      (0 < labelPoints sourceTable (ofTitle title).source ↔ (ofTitle title).source.isSome = true) ∧
      ((ofTitle title).hdr = true ↔ (ofTitle title).hdrFormat.isSome = true) ∧
      (points (ofTitle title) = 0 ↔ (ofTitle title).isUnknown = true) ∧
      points (ofTitle title) ≤ 1990 := by
  have resolution :=
    earnsMost_firstLabel? resolutionTable resolutionRules (by decide) (by decide) title
  have codec := earnsMost_firstLabel? codecTable codecRules (by decide) (by decide) title
  have audio := earnsMost_firstLabel? audioTable audioRules (by decide) (by decide) title
  have hdrFormat := earnsMost_firstLabel? hdrTable hdrRules (by decide) (by decide) title
  have source := labelPoints_firstLabel?_pos_iff sourceTable sourceRules (by decide) title
  exact ⟨resolution, codec, audio, hdrFormat, source_earnsMost title, source, Iff.rfl,
    points_ofTitle_eq_zero_iff title, points_le _⟩

/-- The best title there is. -/
example : points (ofTitle "Movie 2160p REMUX x265 TrueHD Atmos DV PROPER REPACK") = 1990 := by
  decide

end ReleaseFinder.Quality
