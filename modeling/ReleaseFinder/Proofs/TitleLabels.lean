import ReleaseFinder.Proofs.PatternWords
import ReleaseFinder.Quality.Basic

/-!
# The labels of titles

A table of rules gives a title the label of the first rule whose pattern occurs in it. Together with
the reading of patterns as descriptions, this says what every attribute of a title is without a
search. Where the labels of a table are distinct, a label is given exactly if its own pattern occurs
and no earlier one does; spelled out, that tells which titles promise 2160p, Dolby Vision or HDR10+.
-/

namespace ReleaseFinder.Quality

open Text Pattern

/-- What a table of rules says of a title: the label of the first rule whose pattern occurs in it,
and nothing if no pattern occurs. -/
def FirstEarned (rules : List Rule) (title : String) : Option String → Prop
  | some label => ∃ before rule after, rules = before ++ rule :: after ∧ rule.label = label ∧
      rule.pattern.Occurs title.toList ∧ ∀ earlier ∈ before, ¬ earlier.pattern.Occurs title.toList
  | none => ∀ rule ∈ rules, ¬ rule.pattern.Occurs title.toList

/-- The search through a table finds what the table says. -/
theorem firstLabel?_eq_iff (rules : List Rule) (title : String) (answer : Option String) :
    firstLabel? rules title.toList = answer ↔ FirstEarned rules title answer := by
  cases answer with
  | none =>
    simp only [firstLabel?, Option.map_eq_none_iff, List.find?_eq_none, Pattern.occursIn_iff,
      FirstEarned]
  | some label =>
    simp only [firstLabel?, Option.map_eq_some_iff, List.find?_eq_some_iff_append,
      Pattern.occursIn_iff, Bool.not_eq_true', ← Bool.not_eq_true, FirstEarned]
    constructor
    · rintro ⟨rule, ⟨occurs, before, after, split, absent⟩, named⟩
      exact ⟨before, rule, after, split, named, occurs, absent⟩
    · rintro ⟨before, rule, after, split, named, occurs, absent⟩
      exact ⟨rule, ⟨occurs, before, after, split, absent⟩, named⟩

/-- Where labels are distinct, a label is found if its own pattern occurs and no earlier one
does. -/
theorem firstLabel?_eq_label_iff {rules : List Rule} (distinct : (rules.map (·.label)).Nodup)
    (before : List Rule) {rule : Rule} {after : List Rule} (split : rules = before ++ rule :: after)
    (title : String) :
    firstLabel? rules title.toList = some rule.label ↔
      rule.pattern.Occurs title.toList ∧
        ∀ earlier ∈ before, ¬ earlier.pattern.Occurs title.toList := by
  subst split
  have apart : ∀ other ∈ before ++ after, other.label ≠ rule.label := by
    rw [List.map_append, List.map_cons, List.nodup_middle, List.nodup_cons,
      ← List.map_append] at distinct
    intro other member same
    exact distinct.1 (same ▸ List.mem_map_of_mem member)
  rw [firstLabel?_eq_iff]
  constructor
  · rintro ⟨front, found, rest, split, named, occurs, absent⟩
    have notBefore : found ∉ before :=
      fun member => apart found (List.mem_append_left _ member) named
    have notAfter : found ∉ after :=
      fun member => apart found (List.mem_append_right _ member) named
    obtain ⟨rfl, rfl, rfl⟩ := (List.append_cons_inj_of_notMem notBefore notAfter).mp split
    exact ⟨occurs, absent⟩
  · rintro ⟨occurs, absent⟩
    exact ⟨before, rule, after, rfl, rfl, occurs, absent⟩

/-- The title says that its picture is in Dolby Vision: in one word, or in two with a blank or a
point. -/
def NamesDolbyVision (title : String) : Prop :=
  Contains "dolby vision" title ∨ Contains "dolby.vision" title ∨ Contains "dolbyvision" title

/-- The pattern of the largest resolution, in words. -/
theorem occurs_2160p_iff (title : String) :
    (anyOf ["2160p", word "4k", word "uhd"]).Occurs title.toList ↔
      Contains "2160p" title ∨ HasWord "4k" title ∨ HasWord "uhd" title := by
  have fourK := occurs_word_literal_iff (show IsWord "4k".toList by decide) title
  have uhd := occurs_word_literal_iff (show IsWord "uhd".toList by decide) title
  simp [occurs_anyOf_iff, occurs_literal_iff, fourK, uhd]

/-- The pattern of Dolby Vision, in words. -/
theorem occurs_dolbyVision_iff (title : String) :
    (anyOf [word "dv", word "dovi", inOrder ["dolby", optional (oneOf " ."), "vision"]]).Occurs
        title.toList ↔
      HasWord "dv" title ∨ HasWord "dovi" title ∨ NamesDolbyVision title := by
  have dv := occurs_word_literal_iff (show IsWord "dv".toList by decide) title
  have dovi := occurs_word_literal_iff (show IsWord "dovi".toList by decide) title
  have spelled : (inOrder ["dolby", optional (oneOf " ."), "vision"]).spellings? =
      some (["dolby vision", "dolby.vision", "dolbyvision"].map String.toList) := by decide
  have full := occurs_iff_of_spellings spelled title
  simp [occurs_anyOf_iff, dv, dovi, full, NamesDolbyVision]

/-- The pattern of HDR10+, in words. -/
theorem occurs_hdr10plus_iff (title : String) :
    (inOrder ["hdr10", anyOf ["+", "plus"]]).Occurs title.toList ↔
      Contains "hdr10+" title ∨ Contains "hdr10plus" title := by
  have spelled : (inOrder ["hdr10", anyOf ["+", "plus"]]).spellings? =
      some (["hdr10+", "hdr10plus"].map String.toList) := by decide
  rw [occurs_iff_of_spellings spelled]
  simp

/-- A title promises the largest resolution if it names it, or has one of two words for it. -/
theorem resolution_eq_2160p_iff (title : String) :
    (ofTitle title).resolution = some "2160p" ↔
      Contains "2160p" title ∨ HasWord "4k" title ∨ HasWord "uhd" title := by
  have first : resolutionRules = [] ++ ⟨"2160p", anyOf ["2160p", word "4k", word "uhd"]⟩ :: _ := rfl
  have found := firstLabel?_eq_label_iff (by decide) [] first title
  rw [occurs_2160p_iff] at found
  simpa [ofTitle] using found

/-- A title promises Dolby Vision if it has one of two words for it, or names it. -/
theorem hdrFormat_eq_dolbyVision_iff (title : String) :
    (ofTitle title).hdrFormat = some "DV" ↔
      HasWord "dv" title ∨ HasWord "dovi" title ∨ NamesDolbyVision title := by
  have first : hdrRules = [] ++ ⟨"DV", _⟩ :: _ := rfl
  have found := firstLabel?_eq_label_iff (by decide) [] first title
  rw [occurs_dolbyVision_iff] at found
  simpa [ofTitle] using found

/-- A title promises HDR10+ if it names it, and does not promise Dolby Vision. -/
theorem hdrFormat_eq_hdr10plus_iff (title : String) :
    (ofTitle title).hdrFormat = some "HDR10+" ↔
      (Contains "hdr10+" title ∨ Contains "hdr10plus" title) ∧
        ¬ HasWord "dv" title ∧ ¬ HasWord "dovi" title ∧ ¬ NamesDolbyVision title := by
  have second : hdrRules = [⟨"DV", _⟩] ++ ⟨"HDR10+", _⟩ :: _ := rfl
  have found := firstLabel?_eq_label_iff (by decide) [_] second title
  rw [occurs_hdr10plus_iff, List.forall_mem_singleton, occurs_dolbyVision_iff] at found
  simpa [ofTitle, not_or] using found

/-- Every attribute of a title is what its table says, and a title is a corrected release or packed
again if it has the word for that. In particular, the largest resolution, Dolby Vision and HDR10+
are told by the words that stand for them; pieces of longer words do not count where a word is asked
for. -/
theorem titles_have_the_first_earned_labels (title : String) :
    (∀ answer, (ofTitle title).resolution = answer ↔ FirstEarned resolutionRules title answer) ∧
      (∀ answer, (ofTitle title).source = answer ↔ FirstEarned sourceRules title answer) ∧
      (∀ answer, (ofTitle title).codec = answer ↔ FirstEarned codecRules title answer) ∧
      (∀ answer, (ofTitle title).audio = answer ↔ FirstEarned audioRules title answer) ∧
      (∀ answer, (ofTitle title).hdrFormat = answer ↔ FirstEarned hdrRules title answer) ∧
      ((ofTitle title).proper = true ↔ HasWord "proper" title) ∧
      ((ofTitle title).repack = true ↔ HasWord "repack" title) ∧
      ((ofTitle title).resolution = some "2160p" ↔
        Contains "2160p" title ∨ HasWord "4k" title ∨ HasWord "uhd" title) ∧
      ((ofTitle title).hdrFormat = some "HDR10+" ↔
        (Contains "hdr10+" title ∨ Contains "hdr10plus" title) ∧
          ¬ HasWord "dv" title ∧ ¬ HasWord "dovi" title ∧ ¬ NamesDolbyVision title) ∧
      ((ofTitle title).hdrFormat = some "DV" ↔
        HasWord "dv" title ∨ HasWord "dovi" title ∨ NamesDolbyVision title) ∧
      (OnlyInsideWords "dv" title →
        ((ofTitle title).hdrFormat = some "DV" ↔
          HasWord "dovi" title ∨ NamesDolbyVision title)) := by
  have dolbyVision := hdrFormat_eq_dolbyVision_iff title
  have corrected : (ofTitle title).proper = true ↔ HasWord "proper" title :=
    (occursIn_iff ..).trans (occurs_word_literal_iff (by decide) title)
  have packedAgain : (ofTitle title).repack = true ↔ HasWord "repack" title :=
    (occursIn_iff ..).trans (occurs_word_literal_iff (by decide) title)
  have inside : OnlyInsideWords "dv" title →
      ((ofTitle title).hdrFormat = some "DV" ↔ HasWord "dovi" title ∨ NamesDolbyVision title) := by
    intro onlyInside
    rw [dolbyVision, or_iff_right ((not_hasWord_iff "dv" title).mpr onlyInside)]
  exact ⟨firstLabel?_eq_iff _ title, firstLabel?_eq_iff _ title, firstLabel?_eq_iff _ title,
    firstLabel?_eq_iff _ title, firstLabel?_eq_iff _ title, corrected, packedAgain,
    resolution_eq_2160p_iff title, hdrFormat_eq_hdr10plus_iff title, dolbyVision, inside⟩

/-- The letters of "adventure" do not make it a film in Dolby Vision. -/
theorem adventure_is_not_in_dolbyVision :
    OnlyInsideWords "dv" "Movie.ADVENTURE.720p" ∧
      ((ofTitle "Movie.ADVENTURE.720p").hdrFormat = some "DV" ↔
        HasWord "dovi" "Movie.ADVENTURE.720p" ∨ NamesDolbyVision "Movie.ADVENTURE.720p") ∧
      (ofTitle "Movie.ADVENTURE.720p").hdrFormat = none := by
  have unnamed : (ofTitle "Movie.ADVENTURE.720p").hdrFormat = none := by decide
  have inside : OnlyInsideWords "dv" "Movie.ADVENTURE.720p" := by
    rw [← not_hasWord_iff]
    intro hasWord
    have named := (hdrFormat_eq_dolbyVision_iff "Movie.ADVENTURE.720p").mpr (Or.inl hasWord)
    rw [unnamed] at named
    cases named
  obtain ⟨_, _, _, _, _, _, _, _, _, _, told⟩ :=
    titles_have_the_first_earned_labels "Movie.ADVENTURE.720p"
  exact ⟨inside, told inside, unnamed⟩

end ReleaseFinder.Quality
