import ReleaseFinder.Proofs.ExactRelevance
import ReleaseFinder.Proofs.TokenForms

/-!
# Titles that answer a query in full

Relevance has three parts: the share of the query's words that are found, the bonus for beginning
alike, and what is taken off for extra words. It is full only if all three are at their best, which
is said here word by word. A title that repeats the query and goes on with release tokens is such an
answer, as long as the query says anything at all: one of nothing but stopwords has no beginning to
be alike.
-/

namespace ReleaseFinder.Relevance

/-- The first word that is no stopword. -/
def FirstSignificant (words : List Word) (word : Word) : Prop :=
  ∃ before after, words = before ++ word :: after ∧ word ∉ stopwords ∧
    ∀ earlier ∈ before, earlier ∈ stopwords

/-- Every word of the query is equal to, a beginning of or an extension of some word of the title,
both begin with the same significant word, and every word of the title is asked for or a release
token. -/
structure AnswersInFull (title query : List Word) : Prop where
  found : ∀ asked ∈ query, ∃ named ∈ title, asked <+: named ∨ named <+: asked
  beginsAlike : ∃ word, FirstSignificant query word ∧ FirstSignificant title word
  explained : ∀ named ∈ title, named ∈ query ∨ ReleaseToken named

/-- Two words agree if one starts with the other. -/
theorem agree_iff (named asked : Word) :
    agree named asked = true ↔ asked <+: named ∨ named <+: asked := by
  rw [agree, Bool.or_eq_true, List.isPrefixOf_iff_prefix, List.isPrefixOf_iff_prefix]

/-- The first significant word that is looked up is the first one there is. -/
theorem firstSignificant?_eq_some_iff (words : List Word) (word : Word) :
    firstSignificant? words = some word ↔ FirstSignificant words word := by
  simp only [firstSignificant?, List.find?_eq_some_iff_append, Bool.not_eq_true', FirstSignificant,
    List.contains_iff_mem, ← Bool.not_eq_true]
  constructor
  · rintro ⟨significant, before, after, split, skipped⟩
    exact ⟨before, after, split, significant, by simpa using skipped⟩
  · rintro ⟨before, after, split, significant, skipped⟩
    exact ⟨significant, before, after, split, by simpa using skipped⟩

/-- Two lists of words begin alike if they have one first significant word. -/
theorem beginAlike_iff (query title : List Word) :
    beginAlike query title = true ↔
      ∃ word, FirstSignificant query word ∧ FirstSignificant title word := by
  simp only [← firstSignificant?_eq_some_iff]
  rw [beginAlike]
  split
  · next asked named first second =>
    rw [first, second, beq_iff_eq]
    constructor
    · rintro rfl
      exact ⟨asked, rfl, rfl⟩
    · rintro ⟨word, ⟨rfl⟩, ⟨rfl⟩⟩
      rfl
  · next missing =>
    refine iff_of_false Bool.false_ne_true ?_
    rintro ⟨word, first, second⟩
    exact missing word word first second

namespace Overlap

variable (title query : List Word)

/-- No more words are found than are asked for. -/
theorem found_ofWords_le : (ofWords title query).found ≤ (ofWords title query).asked :=
  List.countP_le_length

/-- All words are found if each agrees with a word of the title. -/
theorem found_ofWords_eq_asked_iff :
    (ofWords title query).found = (ofWords title query).asked ↔
      ∀ asked ∈ query, ∃ named ∈ title, asked <+: named ∨ named <+: asked := by
  simp only [ofWords, List.countP_eq_length, List.any_eq_true, agree_iff]

/-- No word is extra if each is asked for or a token. -/
theorem extra_ofWords_eq_zero_iff :
    (ofWords title query).extra = 0 ↔ ∀ named ∈ title, named ∈ query ∨ ReleaseToken named := by
  simp only [ofWords, List.countP_eq_zero, Bool.and_eq_true, Bool.not_eq_true', ← Bool.not_eq_true,
    List.contains_iff_mem, isReleaseToken_iff]
  simp only [not_and, not_not, or_iff_not_imp_left]

/-- An overlap is at its best in all parts if the title answers the query in full. -/
theorem full_iff :
    (ofWords title query).found = (ofWords title query).asked ∧
      (ofWords title query).beginsAlike = true ∧
        (ofWords title query).extra = 0 ↔ AnswersInFull title query := by
  have alike : (ofWords title query).beginsAlike = true ↔
      ∃ word, FirstSignificant query word ∧ FirstSignificant title word :=
        beginAlike_iff query title
  rw [found_ofWords_eq_asked_iff, alike, extra_ofWords_eq_zero_iff]
  exact ⟨fun ⟨found, begins, explained⟩ => ⟨found, begins, explained⟩,
    fun ⟨found, begins, explained⟩ => ⟨found, begins, explained⟩⟩

end Overlap

/-- Words with a significant one have a first one. -/
theorem exists_firstSignificant {words : List Word}
    (significant : ∃ word ∈ words, word ∉ stopwords) : ∃ word, FirstSignificant words word := by
  simp only [← firstSignificant?_eq_some_iff, ← Option.isSome_iff_exists, firstSignificant?,
    List.find?_isSome]
  simpa using significant

/-- What follows the first significant word does not matter. -/
theorem FirstSignificant.append {words : List Word} {word : Word}
    (first : FirstSignificant words word) (others : List Word) :
    FirstSignificant (words ++ others) word := by
  obtain ⟨before, after, rfl, significant, skipped⟩ := first
  exact ⟨before, after ++ others, by simp, significant, skipped⟩

/-- The words of a query with tokens behind them answer the query in full. -/
theorem answersInFull_append {query tokens : List Word}
    (significant : ∃ word ∈ query, word ∉ stopwords)
    (areTokens : ∀ token ∈ tokens, ReleaseToken token) : AnswersInFull (query ++ tokens) query := by
  obtain ⟨word, first⟩ := exists_firstSignificant significant
  refine ⟨?found, ⟨word, first, first.append tokens⟩, ?explained⟩
  case found =>
    intro asked member
    exact ⟨asked, List.mem_append_left tokens member, Or.inl List.prefix_rfl⟩
  case explained =>
    intro named member
    exact (List.mem_append.mp member).imp_right (areTokens named)

/-- A title has the full relevance to a query exactly if it answers it in full. It does if its words
are those of the query, not all of them stopwords, with any release tokens behind. -/
theorem full_relevance_iff {query : String} (asked : words query ≠ []) (title : String) :
    ((ofTitle title query : ℚ) = 20 ↔ AnswersInFull (words title) (words query)) ∧
      ∀ tokens : List Word, words title = words query ++ tokens →
        (∀ token ∈ tokens, ReleaseToken token) →
        (∃ word ∈ words query, word ∉ stopwords) → (ofTitle title query : ℚ) = 20 := by
  have full : (ofTitle title query : ℚ) = 20 ↔ AnswersInFull (words title) (words query) := by
    have some : (Overlap.ofWords (words title) (words query)).asked ≠ 0 :=
      fun none => asked (List.eq_nil_of_length_eq_zero none)
    rw [ofTitle, Overlap.relevance_eq_twenty_iff some (Overlap.found_ofWords_le _ _),
      Overlap.full_iff]
  refine ⟨full, ?_⟩
  intro tokens split areTokens significant
  rw [full, split]
  exact answersInFull_append significant areTokens

/-- A release name that repeats the query and goes on with a year, a marker and tokens is fully
relevant. -/
theorem matrix_release_is_fully_relevant :
    words "The Matrix" ≠ [] ∧ (∃ word ∈ words "The Matrix", word ∉ stopwords) ∧
      words "The.Matrix.1999.S01E02.1080p.WEB-DL" =
        words "The Matrix" ++ ["1999", "s01e02", "1080p", "web", "dl"].map String.toList ∧
      (∀ token ∈ ["1999", "s01e02", "1080p", "web", "dl"].map String.toList, ReleaseToken token) ∧
      (ofTitle "The.Matrix.1999.S01E02.1080p.WEB-DL" "The Matrix" : ℚ) = 20 := by
  have asked : words "The Matrix" ≠ [] := by decide +kernel
  have significant : ∃ word ∈ words "The Matrix", word ∉ stopwords := by decide +kernel
  have split : words "The.Matrix.1999.S01E02.1080p.WEB-DL" =
      words "The Matrix" ++ ["1999", "s01e02", "1080p", "web", "dl"].map String.toList := by
        decide +kernel
  have areTokens : ∀ token ∈ ["1999", "s01e02", "1080p", "web", "dl"].map String.toList,
      ReleaseToken token := by
    simp only [← isReleaseToken_iff]
    decide +kernel
  have full := full_relevance_iff asked "The.Matrix.1999.S01E02.1080p.WEB-DL"
  exact ⟨asked, significant, split, areTokens, full.2 _ split areTokens significant⟩

end ReleaseFinder.Relevance
