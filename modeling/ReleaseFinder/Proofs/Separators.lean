import ReleaseFinder.Proofs.SigmaForms
import ReleaseFinder.Relevance

/-!
# Separators of words

Release names put points, underscores, hyphens or spaces between words, and none of them is part of
a word. But a text is put in lower case before it is split, and a sigma looks past a point to the
next letter while it sees the end of a word in the other three. The sigma of `ΑΣ.Α` is no final one;
that of `ΑΣ Α` is.

So two texts that differ in their separators only have the same words exactly if their capital
sigmas see the same. They do if there are none, or if no point is among the separators exchanged.
-/

namespace ReleaseFinder.Relevance

open Text

/-- The characters that release names put between words. -/
def nameSeparators : List Char :=
  ['.', '_', '-', ' ']

/-- Those of them that are not looked past. -/
def plainSeparators : List Char :=
  ['_', '-', ' ']

/-- Equal characters, or two of the separators. -/
def SameBut (separators : List Char) (c d : Char) : Prop :=
  c = d ∨ c ∈ separators ∧ d ∈ separators

instance (separators : List Char) : DecidableRel (SameBut separators) :=
  fun c d => inferInstanceAs (Decidable (c = d ∨ c ∈ separators ∧ d ∈ separators))

/-- Texts of which one is the other with separators put for each other. -/
def Exchanged (separators : List Char) (first second : String) : Prop :=
  List.Forall₂ (SameBut separators) first.toList second.toList

instance (separators : List Char) (first second : String) :
    Decidable (Exchanged separators first second) :=
  inferInstanceAs (Decidable (List.Forall₂ (SameBut separators) first.toList second.toList))

/-- The capital sigmas of two texts see the same, place by place. -/
def SameEnds (first second : String) : Prop :=
  wordEnds [] first.toList [] = wordEnds [] second.toList []

/-- A separator has itself for an image. -/
theorem lowerInContext_separator {c : Char} (separator : c ∈ nameSeparators)
    (before after : List Char) : c ≠ 'Σ' ∧ lowerInContext before c after = [c] := by
  obtain ⟨other, image⟩ : c ≠ 'Σ' ∧ lowerInContext [] c [] = [c] := by
    fin_cases separator <;> decide +kernel
  exact ⟨other, (lowerInContext_of_ne other).trans image⟩

/-- Every separator of names separates words. -/
theorem separatesWords_separator {c : Char} (separator : c ∈ nameSeparators) :
    separatesWords c = true := by
  fin_cases separator <;> decide

namespace SameBut

variable {c d : Char}

/-- Separators may stand for each other without words being separated otherwise. -/
theorem separatesWords_eq (letter : SameBut nameSeparators c d) :
    separatesWords c = separatesWords d := by
  rcases letter with rfl | ⟨first, second⟩
  · rfl
  · rw [separatesWords_separator first, separatesWords_separator second]

/-- Only separators are exchanged. -/
theorem eq_of_separatesWords (letter : SameBut nameSeparators c d)
    (inWord : separatesWords c = false) : c = d := by
  rcases letter with rfl | ⟨first, second⟩
  · rfl
  · simp [separatesWords_separator first] at inWord

end SameBut

variable {first second : List Char}

/-- Exchanging separators leaves the pieces between them as they are. -/
theorem pieces_eq_of_sameBut (texts : List.Forall₂ (SameBut nameSeparators) first second) :
    pieces separatesWords first = pieces separatesWords second := by
  induction texts with
  | nil => rfl
  | @cons c d first second letter texts inductionHypothesis =>
    rw [pieces.eq_def, pieces.eq_def separatesWords (d :: second)]
    dsimp only
    rw [← letter.separatesWords_eq]
    cases inWord : separatesWords c with
    | true => exact inductionHypothesis
    | false =>
      obtain rfl := letter.eq_of_separatesWords inWord
      cases texts with
      | nil => rfl
      | cons next later =>
        dsimp only
        rw [next.separatesWords_eq, inductionHypothesis]

/-- Where sigmas see the same, lower case exchanges separators for each other too. -/
theorem sameBut_lowerChars (texts : List.Forall₂ (SameBut nameSeparators) first second)
    (ends : wordEnds [] first [] = wordEnds [] second []) :
    List.Forall₂ (SameBut nameSeparators) (lowerChars first) (lowerChars second) := by
  rw [lowerChars_eq_lowerBetween, lowerChars_eq_lowerBetween]
  refine forall₂_lowerBetween (SameBut nameSeparators) (fun c => Or.inl rfl) ?_ texts ends
  intro c d letter different
  obtain ⟨left, right⟩ := letter.resolve_left different
  refine ⟨(lowerInContext_separator left [] []).1, (lowerInContext_separator right [] []).1, ?_⟩
  intro before others after rest
  rw [(lowerInContext_separator left before after).2,
    (lowerInContext_separator right others rest).2]
  exact .cons letter .nil

/-- The characters of a text in words. -/
def inWords (text : List Char) : List Char :=
  text.filter fun c => !separatesWords c

/-- The characters in words of joined texts are those of the first and then those of the second. -/
theorem inWords_append (first second : List Char) :
    inWords (first ++ second) = inWords first ++ inWords second :=
  List.filter_append ..

/-- Texts with the same characters in words have sigmas that see the same. -/
theorem wordEnds_eq_of_inWords_eq (texts : List.Forall₂ (SameBut nameSeparators) first second)
    {before others : List Char}
    (same : inWords (lowerBetween before first []) = inWords (lowerBetween others second [])) :
    wordEnds before first [] = wordEnds others second [] := by
  induction texts generalizing before others with
  | nil => rfl
  | @cons c d first second letter texts inductionHypothesis =>
    rw [lowerBetween, lowerBetween, inWords_append, inWords_append] at same
    rw [wordEnds, wordEnds]
    rcases letter with rfl | ⟨left, right⟩
    · by_cases sigma : c = 'Σ'
      · subst sigma
        have kept (final : Bool) : inWords [smallSigma final] = [smallSigma final] := by
          revert final
          decide
        rw [lowerInContext_sigma, lowerInContext_sigma, kept, kept] at same
        obtain ⟨here, later⟩ := List.cons.inj same
        rw [if_pos rfl, if_pos rfl, smallSigma_inj.mp here, inductionHypothesis later]
      · have images : lowerInContext before c (first ++ []) =
            lowerInContext others c (second ++ []) :=
          lowerInContext_of_ne sigma
        rw [images] at same
        rw [if_neg sigma, if_neg sigma, inductionHypothesis (List.append_cancel_left same)]
    · obtain ⟨leftOther, leftImage⟩ := lowerInContext_separator left before (first ++ [])
      obtain ⟨rightOther, rightImage⟩ := lowerInContext_separator right others (second ++ [])
      have dropped {c : Char} (separator : c ∈ nameSeparators) : inWords [c] = [] := by
        simp [inWords, separatesWords_separator separator]
      rw [leftImage, rightImage, dropped left, dropped right] at same
      rw [if_neg leftOther, if_neg rightOther, inductionHypothesis same]

/-- Texts that differ in their separators have the same words exactly if their sigmas see the
same. -/
theorem words_eq_iff_sameEnds {first second : String}
    (exchanged : Exchanged nameSeparators first second) :
    words first = words second ↔ SameEnds first second := by
  constructor
  · intro same
    have flat := congrArg List.flatten same
    rw [words, words, flatten_pieces, flatten_pieces, lowerChars_eq_lowerBetween,
      lowerChars_eq_lowerBetween] at flat
    exact wordEnds_eq_of_inWords_eq exchanged flat
  · intro ends
    exact pieces_eq_of_sameBut (sameBut_lowerChars exchanged ends)

/-! ## Separators that are not looked past -/

/-- A separator that is not looked past is no letter. -/
theorem plainSeparator_spec {c : Char} (separator : c ∈ plainSeparators) :
    c ≠ 'Σ' ∧ isIgnorable c = false ∧ isCased c = false := by
  fin_cases separator <;> decide +kernel

/-- Texts with other plain separators go on alike. -/
theorem onward?_eq_of_plain (texts : List.Forall₂ (SameBut plainSeparators) first second) :
    onward? first = onward? second := by
  induction texts with
  | nil => rfl
  | cons letter texts inductionHypothesis =>
    rw [onward?, onward?] at inductionHypothesis ⊢
    rcases letter with rfl | ⟨left, right⟩
    · rw [List.find?_cons, List.find?_cons]
      split
      · rfl
      · exact inductionHypothesis
    · obtain ⟨-, leftSeen, leftOther⟩ := plainSeparator_spec left
      obtain ⟨-, rightSeen, rightOther⟩ := plainSeparator_spec right
      simp [leftSeen, leftOther, rightSeen, rightOther]

/-- Between the separators that are not looked past, sigmas see no difference. -/
theorem wordEnds_eq_of_plain {before others : List Char}
    (befores : List.Forall₂ (SameBut plainSeparators) before others)
    (texts : List.Forall₂ (SameBut plainSeparators) first second) :
    wordEnds before first [] = wordEnds others second [] := by
  induction texts generalizing before others with
  | nil => rfl
  | @cons c d first second letter texts inductionHypothesis =>
    have later := inductionHypothesis (.cons letter befores)
    rw [wordEnds, wordEnds, List.append_nil, List.append_nil, endsWord_eq, endsWord_eq,
      onward?_eq_of_plain befores, onward?_eq_of_plain texts, later]
    rcases letter with rfl | ⟨left, right⟩
    · rfl
    · rw [if_neg (plainSeparator_spec left).1, if_neg (plainSeparator_spec right).1]

/-- Other separators bring no capital sigma into a text. -/
theorem sigma_not_mem (texts : List.Forall₂ (SameBut nameSeparators) first second)
    (absent : 'Σ' ∉ first) : 'Σ' ∉ second := by
  induction texts with
  | nil => exact absent
  | @cons c d first second letter texts inductionHypothesis =>
    rw [List.mem_cons, not_or] at absent ⊢
    refine ⟨?_, inductionHypothesis absent.2⟩
    rcases letter with rfl | ⟨_, right⟩
    · exact absent.1
    · exact (lowerInContext_separator right [] []).1.symm

/-! ## Words and relevance -/

/-- Exchanging separators leaves the words of a text as they are exactly if its sigmas see the same.
So it is for a text without capital sigmas, and for every text if no point is exchanged. A title is
as relevant to a query whichever separators the two use, as long as this holds of both. -/
theorem separators_keep_words_iff {first second : String}
    (exchanged : Exchanged nameSeparators first second) :
    (words first = words second ↔ SameEnds first second) ∧
      ('Σ' ∉ first.toList → SameEnds first second) ∧
      (Exchanged plainSeparators first second → SameEnds first second) ∧
      ∀ query other : String, Exchanged nameSeparators query other →
        SameEnds first second → SameEnds query other →
        ∀ {α : Type} [Scalar α], (ofTitle first query : α) = ofTitle second other := by
  refine ⟨words_eq_iff_sameEnds exchanged, ?absent, wordEnds_eq_of_plain .nil, ?relevance⟩
  case absent =>
    intro absent
    rw [SameEnds, wordEnds_eq_nil absent, wordEnds_eq_nil (sigma_not_mem exchanged absent)]
  case relevance =>
    intro query other queries titleEnds queryEnds α _
    rw [ofTitle, ofTitle, (words_eq_iff_sameEnds exchanged).mpr titleEnds,
      (words_eq_iff_sameEnds queries).mpr queryEnds]

/-- A release name with other separators has the same words and is as relevant to a query with a
hyphen. -/
theorem matrix_name_may_have_spaces :
    Exchanged nameSeparators "The.Matrix_1999-GROUP" "The Matrix.1999 GROUP" ∧
      words "The.Matrix_1999-GROUP" = words "The Matrix.1999 GROUP" ∧
      (ofTitle "The.Matrix_1999-GROUP" "the-matrix" : Float) =
        ofTitle "The Matrix.1999 GROUP" "the matrix" := by
  have titles : Exchanged nameSeparators "The.Matrix_1999-GROUP" "The Matrix.1999 GROUP" := by
    decide
  have queries : Exchanged nameSeparators "the-matrix" "the matrix" := by decide
  obtain ⟨iff, absent, -, relevance⟩ := separators_keep_words_iff titles
  have titleEnds := absent (by decide)
  have queryEnds := (separators_keep_words_iff queries).2.1 (by decide)
  exact ⟨titles, iff.mpr titleEnds, relevance _ _ queries titleEnds queryEnds⟩

/-- Before a point and another letter a sigma is no final one. The word it ends is another one then,
which a query with a space instead of the point does not find in the title. -/
theorem point_after_sigma_is_no_space :
    Exchanged nameSeparators "ΑΣ.Α" "ΑΣ Α" ∧
      words "ΑΣ.Α" = ["ασ".toList, "α".toList] ∧ words "ΑΣ Α" = ["ας".toList, "α".toList] ∧
      (ofTitle "ΑΣ.Α" "ΑΣ Α" : Float) < ofTitle "ΑΣ Α" "ΑΣ Α" := by
  refine ⟨by decide, ?_, ?_, ?_⟩ <;> decide +kernel

end ReleaseFinder.Relevance
