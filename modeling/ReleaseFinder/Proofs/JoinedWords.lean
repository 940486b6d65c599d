import ReleaseFinder.Proofs.Separators

/-!
# Words of joined texts

A separator that is not looked past keeps the two texts beside it apart: no piece reaches over it,
and a sigma on one side sees no letter on the other. So the words of two texts with a blank between
them are the words of the first and then those of the second, each as it is in its own text.

A point in place of the blank would do for the pieces, but not for the sigmas.
-/

namespace ReleaseFinder.Relevance

open Text

section Pieces

variable {separates : Char → Bool} {c next : Char}

/-- A separator in front adds no piece. -/
theorem pieces_separator (separator : separates c = true) (rest : List Char) :
    pieces separates (c :: rest) = pieces separates rest := by
  rw [pieces.eq_def]
  exact if_pos separator

/-- A character before a separator is a piece of its own. -/
theorem pieces_before_separator (inside : ¬ separates c = true) (separator : separates next = true)
    (rest : List Char) :
    pieces separates (c :: next :: rest) = [c] :: pieces separates (next :: rest) := by
  rw [pieces.eq_def]
  dsimp only
  rw [if_neg inside, if_pos separator]

/-- A character before another one of a piece belongs to the same piece. -/
theorem pieces_in_piece (inside : ¬ separates c = true) (nextInside : ¬ separates next = true)
    (rest : List Char) :
    pieces separates (c :: next :: rest) = extendFirst c (pieces separates (next :: rest)) := by
  rw [pieces.eq_def]
  dsimp only
  rw [if_neg inside, if_neg nextInside]

/-- A text that begins inside a piece has a piece. -/
theorem pieces_ne_nil (inside : ¬ separates c = true) (rest : List Char) :
    pieces separates (c :: rest) ≠ [] := by
  intro empty
  have kept := flatten_pieces separates (c :: rest)
  rw [empty] at kept
  simp [inside] at kept

/-- Only the first piece is extended, whatever follows. -/
theorem extendFirst_append {found : List (List Char)} (inhabited : found ≠ [])
    (others : List (List Char)) :
    extendFirst c (found ++ others) = extendFirst c found ++ others := by
  cases found with
  | nil => exact absurd rfl inhabited
  | cons piece found => rfl

/-- No piece reaches over a separator. -/
theorem pieces_append_separator (separator : separates c = true) (first second : List Char) :
    pieces separates (first ++ c :: second) =
      pieces separates first ++ pieces separates second := by
  fun_induction pieces separates first with
  | case1 => exact pieces_separator separator second
  | case2 d rest separated inductionHypothesis =>
    rw [List.cons_append, pieces_separator separated, inductionHypothesis]
  | case3 d inside =>
    rw [List.singleton_append, pieces_before_separator inside separator, pieces_separator separator]
    rfl
  | case4 d inside next tail nextSeparates inductionHypothesis =>
    rw [List.cons_append, List.cons_append, pieces_before_separator inside nextSeparates,
      ← List.cons_append, inductionHypothesis, List.cons_append]
  | case5 d inside next tail nextInside inductionHypothesis =>
    rw [List.cons_append, List.cons_append, pieces_in_piece inside nextInside, ← List.cons_append,
      inductionHypothesis, extendFirst_append (pieces_ne_nil nextInside tail)]

/-- A text without separators is one piece. -/
theorem pieces_of_inside {text : List Char} (inhabited : text ≠ [])
    (inside : ∀ c ∈ text, ¬ separates c = true) : pieces separates text = [text] := by
  induction text with
  | nil => exact absurd rfl inhabited
  | cons c rest inductionHypothesis =>
    obtain ⟨here, later⟩ := List.forall_mem_cons.mp inside
    cases rest with
    | nil =>
      rw [pieces.eq_def]
      exact if_neg here
    | cons next rest =>
      rw [pieces_in_piece here (later next List.mem_cons_self),
        inductionHypothesis (List.cons_ne_nil next rest) later]
      rfl

/-- The characters of a piece stand in the text, and are no separators. -/
theorem mem_of_mem_pieces {text piece : List Char} (isPiece : piece ∈ pieces separates text)
    (member : c ∈ piece) :
    c ∈ text ∧ ¬ separates c = true := by
  have kept : c ∈ (pieces separates text).flatten := List.mem_flatten_of_mem isPiece member
  rw [flatten_pieces, List.mem_filter, Bool.not_eq_true', ← Bool.not_eq_true] at kept
  exact kept

end Pieces

/-- A separator that is not looked past begins with no letter, whatever comes behind it. -/
theorem meetsLetter_plain {c : Char} (plain : c ∈ plainSeparators) (rest : List Char) :
    meetsLetter (c :: rest) = false := by
  obtain ⟨-, seen, other⟩ := plainSeparator_spec plain
  rw [meetsLetter, List.dropWhile_cons_of_neg (by simp [seen])]
  exact other

/-- On both sides of a separator that is not looked past, a text has the lower case of its sides. -/
theorem lowerChars_append_plain {c : Char} (plain : c ∈ plainSeparators)
    (first second : List Char) :
    lowerChars (first ++ c :: second) = lowerChars first ++ c :: lowerChars second := by
  have named : c ∈ nameSeparators := by
    fin_cases plain <;> decide
  have left : wordEnds [] first (c :: second) = wordEnds [] first [] :=
    wordEnds_congr rfl (meetsLetter_plain plain second)
  have right : wordEnds (c :: first.reverse) second [] = wordEnds [] second [] :=
    wordEnds_congr (meetsLetter_plain plain first.reverse) rfl
  have middle := (lowerInContext_separator named first.reverse second).2
  simp only [lowerChars_eq_lowerBetween]
  rw [lowerBetween_append, lowerBetween, List.append_nil, List.append_nil, List.append_nil, middle,
    List.singleton_append]
  rw [lowerBetween_eq_of_wordEnds_eq left, lowerBetween_eq_of_wordEnds_eq right]

/-- The words of two texts with a blank between them. -/
theorem words_append_blank (first second : String) :
    words (first ++ " " ++ second) = words first ++ words second := by
  have texts : (first ++ " " ++ second).toList = first.toList ++ ' ' :: second.toList := by
    simp
  rw [words, texts, lowerChars_append_plain (by decide), pieces_append_separator (by decide)]
  rfl

end ReleaseFinder.Relevance
