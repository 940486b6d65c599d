import ReleaseFinder.Pattern
import ReleaseFinder.Proofs.LetterCase

/-!
# Patterns read as descriptions

A pattern describes a stretch of a text by what the stretch is made of, and by what stands next to
it where the pattern asks for the edge of a word. `Describes` says this form by form, with no
places, no order of alternatives and no choice of the longest run. A pattern is found in a text
exactly if it describes some stretch of it. Whether a text has such a stretch does not depend on the
case of ASCII letters.
-/

namespace ReleaseFinder

open Text

/-- A character of words: an ASCII letter, a digit or an underscore. -/
def IsWordChar (c : Char) : Prop :=
  ('a' ≤ c ∧ c ≤ 'z') ∨ ('A' ≤ c ∧ c ≤ 'Z') ∨ ('0' ≤ c ∧ c ≤ '9') ∨ c = '_'

/-- The text ends with a character of words. -/
def EndsInWord (text : List Char) : Prop :=
  ∃ c, text.getLast? = some c ∧ IsWordChar c

/-- The text starts with a character of words. -/
def StartsInWord (text : List Char) : Prop :=
  ∃ c, text.head? = some c ∧ IsWordChar c

/-- The character is one of the class. Letters stand for themselves in either case. -/
def CharClass.Includes : CharClass → Char → Prop
  | .letter option, c => SameLetter option c
  | .among options, c => ∃ option ∈ options, SameLetter option c
  | .digit, c => '0' ≤ c ∧ c ≤ '9'
  | .anyInLine, c => c ≠ '\n'

namespace Pattern

/-- The pattern describes the stretch of a text between what stands before it and what stands after
it. -/
def Describes : Pattern → (before stretch after : List Char) → Prop
  | .empty, _, stretch, _ => stretch = []
  | .one characters, _, stretch, _ => ∃ c, stretch = [c] ∧ characters.Includes c
  | .many characters, _, stretch, _ => ∀ c ∈ stretch, characters.Includes c
  | .boundary, before, stretch, after => stretch = [] ∧ (EndsInWord before ↔ ¬ StartsInWord after)
  | .sequence first second, before, stretch, after =>
    ∃ front rest, stretch = front ++ rest ∧ first.Describes before front (rest ++ after) ∧
      second.Describes (before ++ front) rest after
  | .choice left right, before, stretch, after =>
    left.Describes before stretch after ∨ right.Describes before stretch after

/-- The pattern describes some stretch of the text. -/
def Occurs (pattern : Pattern) (text : List Char) : Prop :=
  ∃ before stretch after, text = before ++ stretch ++ after ∧ pattern.Describes before stretch after

end Pattern

/-! ## Finding what is described -/

/-- Digits are the characters from `0` to `9`. -/
theorem isDigit_iff (c : Char) : c.isDigit = true ↔ '0' ≤ c ∧ c ≤ '9' := by
  rw [Char.isDigit, Bool.and_eq_true, decide_eq_true_eq, decide_eq_true_eq]
  exact Iff.rfl

/-- The test for characters of words tells them. -/
theorem isWordChar_iff (c : Char) : isWordChar c = true ↔ IsWordChar c := by
  have lower : c.isLower = true ↔ 'a' ≤ c ∧ c ≤ 'z' := by
    rw [Char.isLower, Bool.and_eq_true, decide_eq_true_eq, decide_eq_true_eq]
    exact Iff.rfl
  have upper : c.isUpper = true ↔ 'A' ≤ c ∧ c ≤ 'Z' := by
    rw [Char.isUpper, decide_eq_true_eq]
    exact Iff.rfl
  rw [isWordChar, Char.isAlphanum, Char.isAlpha, Bool.or_eq_true, Bool.or_eq_true, Bool.or_eq_true,
    lower, upper, isDigit_iff, beq_iff_eq, IsWordChar]
  tauto

/-- A class accepts the characters that it includes. -/
theorem CharClass.accepts_iff (characters : CharClass) (c : Char) :
    characters.accepts c = true ↔ characters.Includes c := by
  cases characters with
  | letter option => simp [accepts, Includes, sameLetter_iff]
  | among options => simp [accepts, Includes, sameLetter_iff]
  | digit => exact isDigit_iff c
  | anyInLine => simp [accepts, Includes]

/-- A letter is a character of words in both cases. -/
theorem isWordChar_iff_of_sameLetter {c d : Char} (letter : SameLetter c d) :
    IsWordChar c ↔ IsWordChar d := by
  have same : isWordChar c = isWordChar d := letter.apply_eq isWordChar (by decide)
  rw [← isWordChar_iff, ← isWordChar_iff, same]

/-- A class includes a letter in both cases or in none. -/
theorem CharClass.includes_iff_of_sameLetter (characters : CharClass) {c d : Char}
    (letter : SameLetter c d) : characters.Includes c ↔ characters.Includes d := by
  have lower := (sameLetter_iff c d).mp letter
  cases characters with
  | letter option => simp only [Includes, sameLetter_iff, lower]
  | among options => simp only [Includes, sameLetter_iff, lower]
  | digit =>
    have same : c.isDigit = d.isDigit := letter.apply_eq Char.isDigit (by decide)
    rw [Includes, Includes, ← isDigit_iff, ← isDigit_iff, same]
  | anyInLine =>
    have same : decide (c ≠ '\n') = decide (d ≠ '\n') :=
      letter.apply_eq (fun c => decide (c ≠ '\n')) (by decide)
    exact decide_eq_decide.mp same

/-- The place in a text between two parts of it. -/
def placeBetween (before after : List Char) : Place :=
  ⟨before.getLast?, after⟩

/-- Behind a character that follows a text. -/
theorem placeBetween_concat (before : List Char) (c : Char) (rest : List Char) :
    placeBetween (before ++ [c]) rest = ⟨some c, rest⟩ := by
  rw [placeBetween, List.getLast?_concat]

/-- A place is at the edge of a word if there is a character of a word on exactly one side. -/
theorem isBoundary_placeBetween (before after : List Char) :
    (placeBetween before after).isBoundary = true ↔ (EndsInWord before ↔ ¬ StartsInWord after) := by
  have ends : before.getLast?.any isWordChar = true ↔ EndsInWord before := by
    simp only [Option.any_eq_true, isWordChar_iff, EndsInWord]
  have starts : after.head?.any isWordChar = true ↔ StartsInWord after := by
    simp only [Option.any_eq_true, isWordChar_iff, StartsInWord]
  rw [← ends, ← starts, placeBetween, Place.isBoundary]
  cases before.getLast?.any isWordChar <;> cases after.head?.any isWordChar <;> simp

namespace Pattern

/-- Behind a stretch that starts with a character, the place is behind the character and then behind
the rest of the stretch. -/
theorem placeBetween_cons (before : List Char) (c : Char) (rest after : List Char) :
    placeBetween (before ++ c :: rest) after = placeBetween ((before ++ [c]) ++ rest) after := by
  rw [List.append_assoc, List.singleton_append]

/-- A run of characters of a class reaches the places behind stretches of such characters. -/
theorem matches_many_iff (characters : CharClass) (before text : List Char) (stop : Place) :
    Matches (.many characters) (placeBetween before text) stop ↔
      ∃ stretch after, text = stretch ++ after ∧ stop = placeBetween (before ++ stretch) after ∧
        ∀ c ∈ stretch, characters.Includes c := by
  induction text generalizing before with
  | nil =>
    constructor
    · intro matched
      cases matched
      exact ⟨[], [], rfl, by rw [List.append_nil], by simp⟩
    · rintro ⟨stretch, after, split, rfl, _⟩
      obtain ⟨rfl, rfl⟩ := List.append_eq_nil_iff.mp split.symm
      rw [List.append_nil]
      exact .manyNone ..
  | cons c rest inductionHypothesis =>
    constructor
    · intro matched
      cases matched with
      | manyNone => exact ⟨[], c :: rest, rfl, by rw [List.append_nil], by simp⟩
      | manyMore accepted more =>
        rw [← placeBetween_concat before, inductionHypothesis] at more
        obtain ⟨stretch, after, rfl, rfl, each⟩ := more
        refine ⟨c :: stretch, after, rfl, (placeBetween_cons ..).symm, ?_⟩
        exact List.forall_mem_cons.mpr ⟨(characters.accepts_iff c).mp accepted, each⟩
    · rintro ⟨stretch, after, split, rfl, each⟩
      cases stretch with
      | nil =>
        rw [List.append_nil, ← List.nil_append after, ← split]
        exact .manyNone ..
      | cons first stretch =>
        obtain ⟨rfl, rfl⟩ := List.cons.inj split
        obtain ⟨first, others⟩ := List.forall_mem_cons.mp each
        apply Matches.manyMore ((characters.accepts_iff _).mpr first)
        rw [← placeBetween_concat before, inductionHypothesis]
        exact ⟨stretch, after, rfl, placeBetween_cons .., others⟩

/-- A pattern reaches the places behind the stretches that it describes. -/
theorem matches_iff_describes (pattern : Pattern) (before text : List Char) (stop : Place) :
    Matches pattern (placeBetween before text) stop ↔
      ∃ stretch after, text = stretch ++ after ∧ stop = placeBetween (before ++ stretch) after ∧
        pattern.Describes before stretch after := by
  induction pattern generalizing before text stop with
  | empty =>
    constructor
    · intro matched
      cases matched
      exact ⟨[], text, rfl, by rw [List.append_nil], rfl⟩
    · rintro ⟨stretch, after, rfl, rfl, rfl⟩
      rw [List.append_nil]
      exact .empty _
  | one characters =>
    constructor
    · intro matched
      cases matched with
      | one _ rest accepted =>
        have included := (characters.accepts_iff _).mp accepted
        exact ⟨[_], rest, rfl, (placeBetween_concat ..).symm, _, rfl, included⟩
    · rintro ⟨stretch, after, rfl, rfl, c, rfl, included⟩
      rw [placeBetween_concat]
      exact .one _ after ((characters.accepts_iff c).mpr included)
  | many characters => exact matches_many_iff characters before text stop
  | boundary =>
    constructor
    · intro matched
      cases matched with
      | boundary _ between =>
        have edge := (isBoundary_placeBetween before text).mp between
        exact ⟨[], text, rfl, by rw [List.append_nil], rfl, edge⟩
    · rintro ⟨stretch, after, rfl, rfl, rfl, edge⟩
      rw [List.append_nil]
      exact .boundary _ ((isBoundary_placeBetween before after).mpr edge)
  | sequence first second firstHypothesis secondHypothesis =>
    constructor
    · intro matched
      cases matched with
      | sequence firstMatches secondMatches =>
        obtain ⟨front, behind, rfl, rfl, firstDescribes⟩ := (firstHypothesis ..).mp firstMatches
        obtain ⟨rest, after, rfl, rfl, secondDescribes⟩ := (secondHypothesis ..).mp secondMatches
        refine ⟨front ++ rest, after, ?_, ?_, front, rest, rfl, firstDescribes, secondDescribes⟩
        · rw [List.append_assoc]
        · rw [List.append_assoc]
    · rintro ⟨stretch, after, rfl, rfl, front, rest, rfl, firstDescribes, secondDescribes⟩
      have firstMatches := (firstHypothesis before (front ++ (rest ++ after)) _).mpr
        ⟨front, rest ++ after, rfl, rfl, firstDescribes⟩
      have secondMatches := (secondHypothesis (before ++ front) (rest ++ after) _).mpr
        ⟨rest, after, rfl, rfl, secondDescribes⟩
      rw [List.append_assoc front, ← List.append_assoc before]
      exact .sequence firstMatches secondMatches
  | choice left right leftHypothesis rightHypothesis =>
    constructor
    · intro matched
      cases matched with
      | choiceLeft _ matched =>
        obtain ⟨stretch, after, split, reached, describes⟩ := (leftHypothesis ..).mp matched
        exact ⟨stretch, after, split, reached, Or.inl describes⟩
      | choiceRight _ matched =>
        obtain ⟨stretch, after, split, reached, describes⟩ := (rightHypothesis ..).mp matched
        exact ⟨stretch, after, split, reached, Or.inr describes⟩
    · rintro ⟨stretch, after, split, reached, describes | describes⟩
      · exact .choiceLeft right
          ((leftHypothesis ..).mpr ⟨stretch, after, split, reached, describes⟩)
      · exact .choiceRight left
          ((rightHypothesis ..).mpr ⟨stretch, after, split, reached, describes⟩)

/-- There is a place where a stretch can stop if the pattern describes a stretch. -/
theorem ends_nonempty_iff (pattern : Pattern) (before text : List Char) :
    (!(pattern.ends ⟨before.getLast?, text⟩).isEmpty) = true ↔
      ∃ stretch after, text = stretch ++ after ∧ pattern.Describes before stretch after := by
  rw [Bool.not_eq_true', List.isEmpty_eq_false_iff_exists_mem]
  simp only [mem_ends_iff]
  constructor
  · rintro ⟨stop, matched⟩
    obtain ⟨stretch, after, split, _, describes⟩ := (matches_iff_describes ..).mp matched
    exact ⟨stretch, after, split, describes⟩
  · rintro ⟨stretch, after, split, describes⟩
    exact ⟨_, (matches_iff_describes ..).mpr ⟨stretch, after, split, rfl, describes⟩⟩

/-- The search that starts behind a text finds what the pattern describes there or further on. -/
theorem occursFrom_iff (pattern : Pattern) (before text : List Char) :
    pattern.occursFrom before.getLast? text = true ↔
      ∃ skipped stretch after, text = skipped ++ stretch ++ after ∧
        pattern.Describes (before ++ skipped) stretch after := by
  induction text generalizing before with
  | nil =>
    rw [occursFrom, ends_nonempty_iff]
    constructor
    · rintro ⟨stretch, after, split, describes⟩
      exact ⟨[], stretch, after, split, by rwa [List.append_nil]⟩
    · rintro ⟨skipped, stretch, after, split, describes⟩
      obtain ⟨nothing, rfl⟩ := List.append_eq_nil_iff.mp split.symm
      obtain ⟨rfl, rfl⟩ := List.append_eq_nil_iff.mp nothing
      rw [List.append_nil] at describes
      exact ⟨[], [], rfl, describes⟩
  | cons c rest inductionHypothesis =>
    have next : some c = (before ++ [c]).getLast? := by rw [List.getLast?_concat]
    rw [occursFrom, Bool.or_eq_true, ends_nonempty_iff, next, inductionHypothesis]
    constructor
    · rintro (⟨stretch, after, split, describes⟩ | ⟨skipped, stretch, after, rfl, describes⟩)
      · exact ⟨[], stretch, after, split, by rwa [List.append_nil]⟩
      · refine ⟨c :: skipped, stretch, after, rfl, ?_⟩
        rwa [List.append_assoc] at describes
    · rintro ⟨skipped, stretch, after, split, describes⟩
      cases skipped with
      | nil =>
        rw [List.append_nil] at describes
        exact Or.inl ⟨stretch, after, split, describes⟩
      | cons first skipped =>
        obtain ⟨rfl, remaining⟩ := List.cons.inj split
        refine Or.inr ⟨skipped, stretch, after, remaining, ?_⟩
        rwa [List.append_assoc]

/-- A pattern is found in a text if it describes some stretch of it. -/
theorem occursIn_iff (pattern : Pattern) (text : List Char) :
    pattern.occursIn text = true ↔ pattern.Occurs text :=
  occursFrom_iff pattern [] text

end Pattern

/-! ## Letter case -/

/-- Recased texts start in words alike. -/
theorem StartsInWord.recased {text other : List Char} (recased : Recased text other)
    (starts : StartsInWord text) : StartsInWord other := by
  obtain ⟨c, first, isWord⟩ := starts
  cases recased with
  | nil => cases first
  | cons letter rest =>
    obtain rfl := Option.some.inj first
    exact ⟨_, rfl, (isWordChar_iff_of_sameLetter letter).mp isWord⟩

/-- A text ends in a word as its reverse starts in one. -/
theorem endsInWord_iff_reverse (text : List Char) :
    EndsInWord text ↔ StartsInWord text.reverse := by
  rw [EndsInWord, StartsInWord, List.head?_reverse]

namespace Text.Recased

variable {first second : List Char} (recased : Recased first second)
include recased

/-- Both texts start in a word, or neither does. -/
theorem startsInWord_iff : StartsInWord first ↔ StartsInWord second :=
  ⟨.recased recased, .recased recased.symm⟩

/-- Both texts end in a word, or neither does. -/
theorem endsInWord_iff : EndsInWord first ↔ EndsInWord second := by
  rw [endsInWord_iff_reverse, endsInWord_iff_reverse, recased.reverse.startsInWord_iff]

end Text.Recased

namespace Pattern

/-- What a pattern describes, it describes in other cases too. -/
theorem Describes.recased {pattern : Pattern} {before stretch after left middle right : List Char}
    (front : Recased before left) (inside : Recased stretch middle) (behind : Recased after right)
    (describes : pattern.Describes before stretch after) : pattern.Describes left middle right := by
  induction pattern generalizing before stretch after left middle right with
  | empty =>
    obtain rfl := describes
    exact List.forall₂_nil_left_iff.mp inside
  | one characters =>
    obtain ⟨c, rfl, included⟩ := describes
    obtain ⟨d, rfl, letter⟩ := Recased.singleton_iff.mp inside
    exact ⟨d, rfl, (characters.includes_iff_of_sameLetter letter).mp included⟩
  | many characters =>
    exact inside.forall_mem
      (fun letter => (characters.includes_iff_of_sameLetter letter).mp) describes
  | boundary =>
    obtain ⟨rfl, edge⟩ := describes
    refine ⟨List.forall₂_nil_left_iff.mp inside, ?_⟩
    rwa [← front.endsInWord_iff, ← behind.startsInWord_iff]
  | sequence first second firstHypothesis secondHypothesis =>
    obtain ⟨start, rest, rfl, firstDescribes, secondDescribes⟩ := describes
    obtain ⟨otherStart, otherRest, rfl, startRecased, restRecased⟩ := Recased.append_iff.mp inside
    refine ⟨otherStart, otherRest, rfl, ?_, ?_⟩
    · exact firstHypothesis front startRecased (restRecased.append behind) firstDescribes
    · exact secondHypothesis (front.append startRecased) restRecased behind secondDescribes
  | choice first second firstHypothesis secondHypothesis =>
    rcases describes with describes | describes
    · exact Or.inl (firstHypothesis front inside behind describes)
    · exact Or.inr (secondHypothesis front inside behind describes)

/-- A pattern that is found in a text is found in the recased text. -/
theorem Occurs.recased {pattern : Pattern} {text other : List Char} (recased : Recased text other)
    (occurs : pattern.Occurs text) : pattern.Occurs other := by
  obtain ⟨before, stretch, after, rfl, describes⟩ := occurs
  obtain ⟨start, right, rfl, startRecased, behind⟩ := Recased.append_iff.mp recased
  obtain ⟨left, middle, rfl, front, inside⟩ := Recased.append_iff.mp startRecased
  exact ⟨left, middle, right, rfl, describes.recased front inside behind⟩

/-- The search for a pattern does not tell recased texts apart. -/
theorem occursIn_eq_of_recased (pattern : Pattern) {text other : List Char}
    (recased : Recased text other) : pattern.occursIn text = pattern.occursIn other := by
  rw [Bool.eq_iff_iff, occursIn_iff, occursIn_iff]
  exact ⟨.recased recased, .recased recased.symm⟩

end Pattern

end ReleaseFinder
