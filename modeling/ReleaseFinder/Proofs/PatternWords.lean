import ReleaseFinder.Proofs.PatternReading

/-!
# The words of patterns

A pattern that lists all its characters spells finitely many words, and describes their recased
forms. Such a pattern is found in the texts that contain one of the words. If it is asked for as a
whole word, it is found where no character of words stands next to the stretch: the words are made
of such characters themselves, so an edge of a word means that there is none on the outer side.
-/

namespace ReleaseFinder

open Text

/-- The text contains the part, in either case of its letters. -/
def Contains (part text : String) : Prop :=
  ∃ before stretch after, text.toList = before ++ stretch ++ after ∧ Recased part.toList stretch

/-- The text contains the part as a whole word: no character of words stands next to it. -/
def HasWord (part text : String) : Prop :=
  ∃ before stretch after, text.toList = before ++ stretch ++ after ∧ Recased part.toList stretch ∧
    ¬ EndsInWord before ∧ ¬ StartsInWord after

/-- The text contains the part, if at all, only as a piece of longer words. -/
def OnlyInsideWords (part text : String) : Prop :=
  ∀ before stretch after, text.toList = before ++ stretch ++ after → Recased part.toList stretch →
    EndsInWord before ∨ StartsInWord after

/-- A part is no word of the text if it stands in longer words only. -/
theorem not_hasWord_iff (part text : String) : ¬ HasWord part text ↔ OnlyInsideWords part text := by
  simp only [HasWord, OnlyInsideWords, not_exists, not_and, not_not]
  constructor
  · intro absent before stretch after split spelled
    by_cases ends : EndsInWord before
    · exact Or.inl ends
    · exact Or.inr (absent before stretch after split spelled ends)
  · intro inside before stretch after split spelled free
    exact (inside before stretch after split spelled).resolve_left free

/-- The characters of a class that lists them. -/
def CharClass.listed? : CharClass → Option (List Char)
  | .letter c => some [c]
  | .among options => some options
  | .digit => none
  | .anyInLine => none

/-- A class that lists its characters includes these, in either case of letters. -/
theorem CharClass.includes_iff_of_listed {characters : CharClass} {options : List Char}
    (listed : characters.listed? = some options) (c : Char) :
    characters.Includes c ↔ ∃ option ∈ options, SameLetter option c := by
  cases characters with
  | letter only =>
    obtain rfl := Option.some.inj listed
    simp [Includes]
  | among all =>
    obtain rfl := Option.some.inj listed
    exact Iff.rfl
  | digit => cases listed
  | anyInLine => cases listed

namespace Pattern

/-- The words that a pattern spells, if it lists all its characters and does not ask for edges. -/
def spellings? : Pattern → Option (List (List Char))
  | .empty => some [[]]
  | .one characters => characters.listed?.map fun options => options.map fun c => [c]
  | .many _ => none
  | .boundary => none
  | .sequence first second =>
    first.spellings?.bind fun fronts => second.spellings?.map fun rests =>
      fronts.flatMap fun front => rests.map fun rest => front ++ rest
  | .choice left right =>
    left.spellings?.bind fun lefts => right.spellings?.map fun rights => lefts ++ rights

/-- A literal spells its text and nothing else. -/
theorem spellings?_literal (text : String) : (literal text).spellings? = some [text.toList] := by
  have letters (characters : List Char) :
      (inOrder (characters.map fun c => .one (.letter c))).spellings? = some [characters] := by
    induction characters with
    | nil => rfl
    | cons c rest inductionHypothesis =>
      cases rest with
      | nil => rfl
      | cons next others =>
        rw [List.map_cons] at inductionHypothesis ⊢
        rw [List.map_cons, inOrder, spellings?, inductionHypothesis]
        · rfl
        · simp
  exact letters text.toList

/-- A pattern that spells words describes their recased forms, wherever they stand. -/
theorem describes_iff_of_spellings {pattern : Pattern} {words : List (List Char)}
    (spells : pattern.spellings? = some words) (before stretch after : List Char) :
    pattern.Describes before stretch after ↔ ∃ word ∈ words, Recased word stretch := by
  induction pattern generalizing words before stretch after with
  | empty =>
    obtain rfl := Option.some.inj spells
    simp [Describes, Recased]
  | one characters =>
    obtain ⟨options, listed, rfl⟩ := Option.map_eq_some_iff.mp spells
    simp only [Describes, CharClass.includes_iff_of_listed listed, List.mem_map,
      exists_exists_and_eq_and, Recased.singleton_iff]
    constructor
    · rintro ⟨c, rfl, option, member, letter⟩
      exact ⟨option, member, c, rfl, letter⟩
    · rintro ⟨option, member, c, rfl, letter⟩
      exact ⟨c, rfl, option, member, letter⟩
  | many characters => cases spells
  | boundary => cases spells
  | sequence first second firstHypothesis secondHypothesis =>
    obtain ⟨fronts, firstSpells, rest⟩ := Option.bind_eq_some_iff.mp spells
    obtain ⟨rests, secondSpells, rfl⟩ := Option.map_eq_some_iff.mp rest
    simp only [Describes, firstHypothesis firstSpells, secondHypothesis secondSpells,
      List.mem_flatMap, List.mem_map]
    constructor
    · rintro ⟨front, rest, rfl, ⟨word, member, spelled⟩, other, otherMember, otherSpelled⟩
      exact ⟨word ++ other, ⟨word, member, other, otherMember, rfl⟩, spelled.append otherSpelled⟩
    · rintro ⟨_, ⟨word, member, other, otherMember, rfl⟩, spelled⟩
      obtain ⟨front, rest, rfl, frontSpelled, restSpelled⟩ := Recased.append_iff.mp spelled
      exact ⟨front, rest, rfl, ⟨word, member, frontSpelled⟩, other, otherMember, restSpelled⟩
  | choice left right leftHypothesis rightHypothesis =>
    obtain ⟨lefts, leftSpells, rest⟩ := Option.bind_eq_some_iff.mp spells
    obtain ⟨rights, rightSpells, rfl⟩ := Option.map_eq_some_iff.mp rest
    simp only [Describes, leftHypothesis leftSpells, rightHypothesis rightSpells, List.mem_append,
      or_and_right, exists_or]

/-- One of two patterns is found if one of them is. -/
theorem occurs_choice_iff (left right : Pattern) (text : List Char) :
    (choice left right).Occurs text ↔ left.Occurs text ∨ right.Occurs text := by
  simp only [Occurs, Describes, and_or_left, exists_or]

/-- One of several patterns is found if one of them is. -/
theorem occurs_anyOf_iff {patterns : List Pattern} (inhabited : patterns ≠ []) (text : List Char) :
    (anyOf patterns).Occurs text ↔ ∃ pattern ∈ patterns, pattern.Occurs text := by
  induction patterns with
  | nil => exact absurd rfl inhabited
  | cons pattern others inductionHypothesis =>
    cases others with
    | nil => simp [anyOf]
    | cons next rest =>
      have remaining := inductionHypothesis (List.cons_ne_nil next rest)
      have either : anyOf (pattern :: next :: rest) = choice pattern (anyOf (next :: rest)) := rfl
      rw [either, occurs_choice_iff, remaining]
      exact (List.exists_mem_cons_iff (·.Occurs text) pattern (next :: rest)).symm

/-- A pattern that spells words is found in the texts that contain one of them. -/
theorem occurs_iff_of_spellings {pattern : Pattern} {words : List String}
    (spells : pattern.spellings? = some (words.map String.toList)) (text : String) :
    pattern.Occurs text.toList ↔ ∃ word ∈ words, Contains word text := by
  simp only [Occurs, describes_iff_of_spellings spells, List.mem_map,
    exists_exists_and_eq_and]
  constructor
  · rintro ⟨before, stretch, after, split, word, member, spelled⟩
    exact ⟨word, member, before, stretch, after, split, spelled⟩
  · rintro ⟨word, member, before, stretch, after, split, spelled⟩
    exact ⟨before, stretch, after, split, word, member, spelled⟩

/-- A literal is found in the texts that contain it. -/
theorem occurs_literal_iff (part text : String) :
    (literal part).Occurs text.toList ↔ Contains part text := by
  have spells : (literal part).spellings? = some ([part].map String.toList) :=
    spellings?_literal part
  simp only [occurs_iff_of_spellings spells, List.mem_singleton, exists_eq_left]

/-- A pattern as a whole word describes what it describes alone, between two edges of words. -/
theorem describes_word_iff (pattern : Pattern) (before stretch after : List Char) :
    (word pattern).Describes before stretch after ↔
      pattern.Describes before stretch after ∧
        (EndsInWord before ↔ ¬ StartsInWord (stretch ++ after)) ∧
        (EndsInWord (before ++ stretch) ↔ ¬ StartsInWord after) := by
  constructor
  · rintro ⟨_, _, rfl, ⟨rfl, front⟩, inside, _, rfl, describes, rfl, back⟩
    simp only [List.append_nil, List.nil_append] at front back describes ⊢
    exact ⟨describes, front, back⟩
  · rintro ⟨describes, front, back⟩
    refine ⟨[], stretch, rfl, ⟨rfl, front⟩, stretch, [], ?_, ?_, rfl, ?_⟩
    · rw [List.append_nil]
    · rwa [List.append_nil]
    · rwa [List.append_nil]

end Pattern

/-- Characters of words make up the text, which is not empty. -/
def IsWord (text : List Char) : Prop :=
  text ≠ [] ∧ ∀ c ∈ text, IsWordChar c

instance : DecidablePred IsWord := fun text =>
  decidable_of_iff (text ≠ [] ∧ text.all isWordChar = true) (by simp [IsWord, isWordChar_iff])

namespace IsWord

variable {text : List Char}

/-- A text that begins with a word starts in one. -/
theorem startsInWord_append (isWord : IsWord text) (after : List Char) :
    StartsInWord (text ++ after) := by
  obtain ⟨c, rest, rfl⟩ := List.exists_cons_of_ne_nil isWord.1
  exact ⟨c, rfl, isWord.2 c List.mem_cons_self⟩

/-- A text that finishes with a word ends in one. -/
theorem endsInWord_append (isWord : IsWord text) (before : List Char) :
    EndsInWord (before ++ text) := by
  obtain ⟨rest, c, rfl⟩ := (List.eq_nil_or_concat text).resolve_left isWord.1
  refine ⟨c, ?_, isWord.2 c (by simp)⟩
  rw [List.concat_eq_append, ← List.append_assoc, List.getLast?_concat]

/-- A recased word is a word. -/
theorem recased {other : List Char} (isWord : IsWord text) (recased : Recased text other) :
    IsWord other := by
  refine ⟨?_, recased.forall_mem (fun letter => (isWordChar_iff_of_sameLetter letter).mp) isWord.2⟩
  rintro rfl
  exact isWord.1 (List.forall₂_nil_right_iff.mp recased)

end IsWord

namespace Pattern

/-- A pattern that spells words is found as a whole word in the texts that have one of the words.
Inside a word, there are characters of words on the inner side of both its edges. -/
theorem occurs_word_iff_of_spellings {pattern : Pattern} {words : List String}
    (spells : pattern.spellings? = some (words.map String.toList))
    (areWords : ∀ word ∈ words, IsWord word.toList) (text : String) :
    (word pattern).Occurs text.toList ↔ ∃ word ∈ words, HasWord word text := by
  simp only [Occurs, describes_word_iff, describes_iff_of_spellings spells, List.mem_map,
    exists_exists_and_eq_and]
  constructor
  · rintro ⟨before, stretch, after, split, ⟨word, member, spelled⟩, front, back⟩
    have isWord := (areWords word member).recased spelled
    have free : ¬ EndsInWord before := fun ends => front.mp ends (isWord.startsInWord_append after)
    have freeAfter : ¬ StartsInWord after := back.mp (isWord.endsInWord_append before)
    exact ⟨word, member, before, stretch, after, split, spelled, free, freeAfter⟩
  · rintro ⟨word, member, before, stretch, after, split, spelled, free, freeAfter⟩
    have isWord := (areWords word member).recased spelled
    have starts := isWord.startsInWord_append after
    have ends := isWord.endsInWord_append before
    exact ⟨before, stretch, after, split, ⟨word, member, spelled⟩,
      iff_of_false free (not_not_intro starts), iff_of_true ends freeAfter⟩

/-- A literal word is found as a whole word in the texts that have it. -/
theorem occurs_word_literal_iff {part : String} (isWord : IsWord part.toList) (text : String) :
    (word (literal part)).Occurs text.toList ↔ HasWord part text := by
  have spells : (literal part).spellings? = some ([part].map String.toList) :=
    spellings?_literal part
  have areWords : ∀ word ∈ [part], IsWord word.toList := List.forall_mem_singleton.mpr isWord
  simp only [occurs_word_iff_of_spellings spells areWords, List.mem_singleton, exists_eq_left]

end Pattern

end ReleaseFinder
