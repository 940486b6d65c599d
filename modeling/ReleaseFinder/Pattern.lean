import ReleaseFinder.Text.LowerCase

/-!
# Patterns

Title patterns as data. `Matches` says which stretch of a title a pattern covers, one rule for each
form; `ends` lists every place where such a stretch can stop, and `occursIn` asks for a stretch
anywhere in the title. Letters match in either case, and only ASCII letters have two cases.
`mem_ends_iff` states that the list and the relation agree.
-/

namespace ReleaseFinder

/-- The sets of characters that patterns name. -/
inductive CharClass where
  /-- One character; an ASCII letter in either case. -/
  | letter (c : Char)
  /-- One of several characters; ASCII letters in either case. -/
  | among (options : List Char)
  /-- An ASCII digit. -/
  | digit
  /-- Any character but the end of a line. -/
  | anyInLine
deriving Repr, DecidableEq

/-- Whether a character belongs to the class. -/
def CharClass.accepts : CharClass → Char → Bool
  | .letter option, c => Text.asciiLowerChar option == Text.asciiLowerChar c
  | .among options, c =>
    options.any fun option => Text.asciiLowerChar option == Text.asciiLowerChar c
  | .digit, c => c.isDigit
  | .anyInLine, c => c != '\n'

/-- A pattern of characters. -/
inductive Pattern where
  /-- Nothing at all. -/
  | empty
  /-- One character of a class. -/
  | one (characters : CharClass)
  /-- Any number of characters of a class. -/
  | many (characters : CharClass)
  /-- A place with a word character on exactly one side. -/
  | boundary
  /-- One pattern and then another. -/
  | sequence (first second : Pattern)
  /-- Either of two patterns. -/
  | choice (left right : Pattern)
deriving Repr, DecidableEq

/-- A place in a text: the character before it, if any, and the text after it. -/
structure Place where
  before : Option Char
  after : List Char
deriving Repr, DecidableEq

/-- A character of words: an ASCII letter, a digit or an underscore. -/
def isWordChar (c : Char) : Bool :=
  c.isAlphanum || c == '_'

/-- Whether the place has a word character on exactly one side. -/
def Place.isBoundary (place : Place) : Bool :=
  place.before.any isWordChar != place.after.head?.any isWordChar

namespace Pattern

/-- The stretch from the first place to the second is covered by the pattern. -/
inductive Matches : Pattern → Place → Place → Prop
  | empty (place : Place) : Matches .empty place place
  | one {characters : CharClass} {c : Char} (before : Option Char) (rest : List Char)
      (accepted : characters.accepts c = true) :
      Matches (.one characters) ⟨before, c :: rest⟩ ⟨some c, rest⟩
  | manyNone (characters : CharClass) (place : Place) : Matches (.many characters) place place
  | manyMore {characters : CharClass} {c : Char} {before : Option Char} {rest : List Char}
      {stop : Place} (accepted : characters.accepts c = true)
      (more : Matches (.many characters) ⟨some c, rest⟩ stop) :
      Matches (.many characters) ⟨before, c :: rest⟩ stop
  | boundary (place : Place) (between : place.isBoundary = true) : Matches .boundary place place
  | sequence {first second : Pattern} {start middle stop : Place}
      (firstMatches : Matches first start middle) (secondMatches : Matches second middle stop) :
      Matches (.sequence first second) start stop
  | choiceLeft {left : Pattern} (right : Pattern) {start stop : Place}
      (matched : Matches left start stop) : Matches (.choice left right) start stop
  | choiceRight (left : Pattern) {right : Pattern} {start stop : Place}
      (matched : Matches right start stop) : Matches (.choice left right) start stop

/-- The places that a run of characters of the class leads to, the nearest first. -/
def runEnds (characters : CharClass) : Option Char → List Char → List Place
  | before, [] => [⟨before, []⟩]
  | before, c :: rest =>
    ⟨before, c :: rest⟩ :: if characters.accepts c then runEnds characters (some c) rest else []

/-- Every place where a stretch covered by the pattern can stop. -/
def ends : Pattern → Place → List Place
  | .empty, place => [place]
  | .one characters, place =>
    match place.after with
    | [] => []
    | c :: rest => if characters.accepts c then [⟨some c, rest⟩] else []
  | .many characters, place => runEnds characters place.before place.after
  | .boundary, place => if place.isBoundary then [place] else []
  | .sequence first second, place => (first.ends place).flatMap second.ends
  | .choice left right, place => left.ends place ++ right.ends place

/-- The pattern covers some stretch that starts at the place or after it. -/
def occursFrom (pattern : Pattern) : Option Char → List Char → Bool
  | before, [] => !(pattern.ends ⟨before, []⟩).isEmpty
  | before, c :: rest =>
    !(pattern.ends ⟨before, c :: rest⟩).isEmpty || pattern.occursFrom (some c) rest

/-- The pattern covers some stretch of the text. -/
def occursIn (pattern : Pattern) (text : List Char) : Bool :=
  pattern.occursFrom none text

/-- The pattern covers the whole text. -/
def coversAll (pattern : Pattern) (text : List Char) : Bool :=
  (pattern.ends ⟨none, text⟩).any fun stop => stop.after.isEmpty

/-! ## Building patterns -/

/-- The patterns one after another. -/
def inOrder : List Pattern → Pattern
  | [] => .empty
  | [pattern] => pattern
  | pattern :: others => .sequence pattern (inOrder others)

/-- The characters of a text, each in either case. -/
def literal (text : String) : Pattern :=
  inOrder (text.toList.map fun c => .one (.letter c))

instance : Coe String Pattern := ⟨literal⟩

/-- One of several patterns. -/
def anyOf : List Pattern → Pattern
  | [] => .empty
  | [pattern] => pattern
  | pattern :: others => .choice pattern (anyOf others)

/-- A pattern that may be left out. -/
def optional (pattern : Pattern) : Pattern :=
  .choice pattern .empty

/-- One of the characters of a text. -/
def oneOf (options : String) : Pattern :=
  .one (.among options.toList)

/-- A pattern that stands as a whole word. -/
def word (pattern : Pattern) : Pattern :=
  .sequence .boundary (.sequence pattern .boundary)

/-- Any stretch within a line. -/
def gap : Pattern :=
  .many .anyInLine

/-! ## The list and the relation agree -/

/-- A run of a class ends exactly where its pattern can. -/
theorem mem_runEnds_iff (characters : CharClass) (before : Option Char) (text : List Char)
    (stop : Place) :
    stop ∈ runEnds characters before text ↔ Matches (.many characters) ⟨before, text⟩ stop := by
  induction text generalizing before with
  | nil =>
    constructor
    · intro member
      rw [runEnds, List.mem_singleton] at member
      subst member
      exact .manyNone characters _
    · intro matched
      cases matched with
      | manyNone => simp [runEnds]
  | cons c rest inductionHypothesis =>
    constructor
    · intro member
      rw [runEnds, List.mem_cons] at member
      rcases member with rfl | member
      · exact .manyNone characters _
      · split at member
        · next accepted =>
          exact .manyMore accepted ((inductionHypothesis _).1 member)
        · cases member
    · intro matched
      cases matched with
      | manyNone => simp [runEnds]
      | manyMore accepted more =>
        simp [runEnds, accepted, (inductionHypothesis _).2 more]

/-- The listed places are exactly those where a covered stretch stops. -/
theorem mem_ends_iff (pattern : Pattern) (start stop : Place) :
    stop ∈ pattern.ends start ↔ Matches pattern start stop := by
  induction pattern generalizing start stop with
  | empty =>
    constructor
    · intro member
      rw [ends, List.mem_singleton] at member
      subst member
      exact .empty _
    · intro matched
      cases matched
      simp [ends]
  | one characters =>
    obtain ⟨before, after⟩ := start
    cases after with
    | nil =>
      constructor
      · intro member
        simp [ends] at member
      · intro matched
        cases matched
    | cons c rest =>
      constructor
      · intro member
        by_cases accepted : characters.accepts c = true
        · simp only [ends, accepted, if_true, List.mem_singleton] at member
          subst member
          exact .one before rest accepted
        · simp [ends, accepted] at member
      · intro matched
        cases matched with
        | one _ _ accepted => simp [ends, accepted]
  | many characters => exact mem_runEnds_iff characters start.before start.after stop
  | boundary =>
    constructor
    · intro member
      by_cases between : start.isBoundary = true
      · simp only [ends, between, if_true, List.mem_singleton] at member
        subst member
        exact .boundary _ between
      · simp [ends, between] at member
    · intro matched
      cases matched with
      | boundary _ between => simp [ends, between]
  | sequence first second firstHypothesis secondHypothesis =>
    constructor
    · intro member
      obtain ⟨middle, reached, finished⟩ := List.mem_flatMap.1 member
      exact .sequence ((firstHypothesis _ _).1 reached) ((secondHypothesis _ _).1 finished)
    · intro matched
      cases matched with
      | sequence firstMatches secondMatches =>
        exact List.mem_flatMap.2
          ⟨_, (firstHypothesis _ _).2 firstMatches, (secondHypothesis _ _).2 secondMatches⟩
  | choice left right leftHypothesis rightHypothesis =>
    constructor
    · intro member
      rcases List.mem_append.1 member with member | member
      · exact .choiceLeft right ((leftHypothesis _ _).1 member)
      · exact .choiceRight left ((rightHypothesis _ _).1 member)
    · intro matched
      cases matched with
      | choiceLeft _ matched => exact List.mem_append_left _ ((leftHypothesis _ _).2 matched)
      | choiceRight _ matched => exact List.mem_append_right _ ((rightHypothesis _ _).2 matched)

end Pattern

end ReleaseFinder
