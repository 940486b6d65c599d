import ReleaseFinder.Proofs.JoinedWords
import ReleaseFinder.Proofs.LoweredTexts

/-!
# The words of a text

The words of a text are the maximal runs of characters in its lower case that are no separators.
`SplitsInto` says so without a computation: gaps and words take turns, and a word goes on until a
separator or the end of the text. A text splits in one way, the computed one (`splitsInto_iff`).

A blank between two texts is no context for the sigmas beside it, so the words of texts joined by
blanks are those of the texts. The words themselves are in lower case already and have no
separators, so joined by blanks they are split into the same words again.
-/

namespace ReleaseFinder.Relevance

open Text

section Splits

variable {separates : Char → Bool}

/-- The text is the gaps and words in turn, each word as long as can be. -/
inductive SplitsInto (separates : Char → Bool) : List Char → List (List Char) → Prop where
  | ends (gap : List Char) (blank : ∀ c ∈ gap, separates c = true) : SplitsInto separates gap []
  | goesOn (gap word rest : List Char) (others : List (List Char))
      (blank : ∀ c ∈ gap, separates c = true) (inhabited : word ≠ [])
      (inside : ∀ c ∈ word, ¬ separates c = true) (stops : ∀ c ∈ rest.head?, separates c = true)
      (later : SplitsInto separates rest others) :
      SplitsInto separates (gap ++ word ++ rest) (word :: others)

/-- A gap before a text adds no piece. -/
theorem pieces_gap_append {gap : List Char} (blank : ∀ c ∈ gap, separates c = true)
    (rest : List Char) : pieces separates (gap ++ rest) = pieces separates rest := by
  induction gap with
  | nil => rfl
  | cons c gap inductionHypothesis =>
    obtain ⟨separator, blank⟩ := List.forall_mem_cons.mp blank
    rw [List.cons_append, pieces_separator separator, inductionHypothesis blank]

/-- A word that goes on until a separator is the first piece. -/
theorem pieces_word_append {word rest : List Char} (inhabited : word ≠ [])
    (inside : ∀ c ∈ word, ¬ separates c = true) (stops : ∀ c ∈ rest.head?, separates c = true) :
    pieces separates (word ++ rest) = word :: pieces separates rest := by
  cases rest with
  | nil => rw [List.append_nil, pieces_of_inside inhabited inside, pieces]
  | cons c rest =>
    have separator : separates c = true := stops c rfl
    rw [pieces_append_separator separator, pieces_of_inside inhabited inside,
      pieces_separator separator]
    rfl

/-- A separator before a text adds to the first gap. -/
theorem SplitsInto.gap {text : List Char} {found : List (List Char)}
    (splits : SplitsInto separates text found) {c : Char} (separator : separates c = true) :
    SplitsInto separates (c :: text) found := by
  cases splits with
  | ends gap blank => exact .ends _ (List.forall_mem_cons.mpr ⟨separator, blank⟩)
  | goesOn gap word rest others blank inhabited inside stops later =>
    exact .goesOn (c :: gap) word rest others
      (List.forall_mem_cons.mpr ⟨separator, blank⟩) inhabited inside stops later

/-- Another character before a text that begins with a word adds to this word. -/
theorem SplitsInto.extendFirst {next : Char} {text : List Char} {found : List (List Char)}
    (splits : SplitsInto separates (next :: text) found) (nextInside : ¬ separates next = true)
    {c : Char} (insideToo : ¬ separates c = true) :
    SplitsInto separates (c :: next :: text) (Text.extendFirst c found) := by
  generalize whole : next :: text = begun at splits
  cases splits with
  | ends gap blank => exact absurd (blank next (whole ▸ List.mem_cons_self)) nextInside
  | goesOn gap word rest others blank inhabited inside stops later =>
    cases gap with
    | nil =>
      exact .goesOn [] (c :: word) rest others blank (List.cons_ne_nil c word)
        (List.forall_mem_cons.mpr ⟨insideToo, inside⟩) stops later
    | cons first gap =>
      obtain ⟨rfl, -⟩ := List.cons.inj whole
      exact absurd (blank next List.mem_cons_self) nextInside

/-- A text splits into its pieces, and in no other way. -/
theorem splitsInto_iff (text : List Char) (found : List (List Char)) :
    SplitsInto separates text found ↔ pieces separates text = found := by
  constructor
  · intro splits
    induction splits with
    | ends gap blank =>
      have none := pieces_gap_append blank []
      rwa [List.append_nil, pieces] at none
    | goesOn gap word rest others blank inhabited inside stops later inductionHypothesis =>
      rw [List.append_assoc, pieces_gap_append blank, pieces_word_append inhabited inside stops,
        inductionHypothesis]
  · rintro rfl
    fun_induction pieces separates text with
    | case1 => exact .ends [] (by simp)
    | case2 c rest separator inductionHypothesis => exact inductionHypothesis.gap separator
    | case3 c insideWord =>
      exact .goesOn [] [c] [] [] (by simp) (by simp) (by simpa using insideWord) (by simp)
        (.ends [] (by simp))
    | case4 c insideWord next rest separator inductionHypothesis =>
      exact .goesOn [] [c] (next :: rest) _ (by simp) (by simp) (by simpa using insideWord)
        (by simpa using separator) inductionHypothesis
    | case5 c insideWord next rest nextInside inductionHypothesis =>
      exact inductionHypothesis.extendFirst nextInside insideWord

end Splits

/-- What separates words is a point, an underscore, a hyphen or a blank. -/
theorem separatesWords_iff (c : Char) :
    separatesWords c = true ↔ c = '.' ∨ c = '_' ∨ c = '-' ∨ isBlank c = true := by
  simp only [separatesWords, Bool.or_eq_true, beq_iff_eq, or_assoc]

/-- A word of a text is a text of that one word. -/
theorem words_of_mem_words {text word : String} (isWord : word.toList ∈ words text) :
    words word = [word.toList] := by
  have inhabited : word.toList ≠ [] := ne_nil_of_mem_pieces _ _ _ isWord
  have lowered : lowerChars word.toList = word.toList :=
    lowerChars_eq_self fun c member =>
      isLowered_of_mem_lowerChars (mem_of_mem_pieces isWord member).1
  rw [words, lowered]
  exact pieces_of_inside inhabited fun c member => (mem_of_mem_pieces isWord member).2

/-- The words of texts joined by blanks are those of the texts. -/
theorem words_intercalate (texts : List String) :
    words (" ".intercalate texts) = texts.flatMap words := by
  induction texts with
  | nil => rfl
  | cons text others inductionHypothesis =>
    cases others with
    | nil => rw [String.intercalate_singleton, List.flatMap_singleton]
    | cons next others =>
      rw [String.intercalate_cons_cons, words_append_blank, inductionHypothesis,
        List.flatMap_cons (x := text)]

/-- The words of a text joined by blanks are split into the same words. -/
theorem words_intercalate_words (text : String) :
    words (" ".intercalate ((words text).map String.ofList)) = words text := by
  have own (word : Word) (isWord : word ∈ words text) : words (String.ofList word) = [word] := by
    have isText : (String.ofList word).toList ∈ words text := by rwa [String.toList_ofList]
    rw [words_of_mem_words isText, String.toList_ofList]
  rw [words_intercalate, List.flatMap_map, List.flatMap_congr own, List.flatMap_singleton']

/-- The words of a text are the split of its lower case at the maximal runs of points, underscores,
hyphens and blanks: none is empty or has one of these in it, all together they are the lower case
without these, and the text splits into them in the one way it can. The words of two texts with a
space between them are those of the first and then those of the second, and the words of a text
joined by spaces are split into the same words. -/
theorem words_are_the_runs :
    (∀ text, (∀ word ∈ words text, word ≠ [] ∧
          ∀ c ∈ word, c ≠ '.' ∧ c ≠ '_' ∧ c ≠ '-' ∧ ¬ isBlank c = true) ∧
        (words text).flatten =
          (lowerChars text.toList).filter
            (fun c => decide ¬(c = '.' ∨ c = '_' ∨ c = '-' ∨ isBlank c = true)) ∧
        ∀ found, SplitsInto separatesWords (lowerChars text.toList) found ↔ found = words text) ∧
      (∀ first second : String, words (first ++ " " ++ second) = words first ++ words second) ∧
      ∀ text, words (" ".intercalate ((words text).map String.ofList)) = words text := by
  refine ⟨?runs, words_append_blank, words_intercalate_words⟩
  case runs =>
    intro text
    refine ⟨?_, ?_, ?_⟩
    · intro word isWord
      refine ⟨ne_nil_of_mem_pieces _ _ _ isWord, fun c member => ?_⟩
      have inside := (mem_of_mem_pieces isWord member).2
      simpa only [separatesWords_iff, not_or] using inside
    · rw [words, flatten_pieces]
      refine List.filter_congr fun c _ => ?_
      rw [Bool.eq_iff_iff, decide_eq_true_eq, ← separatesWords_iff, Bool.not_eq_true',
        Bool.not_eq_true]
    · intro found
      rw [splitsInto_iff, words, eq_comm]

end ReleaseFinder.Relevance
