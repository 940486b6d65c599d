import ReleaseFinder.Proofs.TitleLabels

/-!
# Titles joined by a separator

Release names are put together from parts, and a group adds its own name last. What a pattern
describes, it describes in every surroundings with the same edges of words; so whatever stands in a
part stands in the whole title, as long as the character between the parts is none of words. A table
therefore never gives the joined title a later rule than it gives one of the parts
(`earnedPlace?_le`).

An earlier rule can be new, because patterns may reach across the separator: the sound of
`TrueHD 7.1 Atmos` is told by both its parts. A pattern made of characters of words cannot reach
that far. Such are the patterns of resolutions and of corrected or repacked releases, and with them
the joined title says what its parts say and nothing else (`earnedPlace?_joined`).
-/

namespace ReleaseFinder

open Text

/-! ## Edges of words beside a separator -/

/-- The empty text does not start in a word. -/
theorem startsInWord_nil : ¬ StartsInWord [] := by
  rintro ⟨c, first, _⟩
  cases first

/-- A text starts in a word if its first character is one of words. -/
theorem startsInWord_cons (c : Char) (text : List Char) :
    StartsInWord (c :: text) ↔ IsWordChar c := by
  simp [StartsInWord]

/-- Behind a text, only its own first character counts, if it has one. -/
theorem startsInWord_append_congr (text : List Char) {after right : List Char}
    (behind : StartsInWord after ↔ StartsInWord right) :
    StartsInWord (text ++ after) ↔ StartsInWord (text ++ right) := by
  cases text with
  | nil => exact behind
  | cons c text => rw [List.cons_append, List.cons_append, startsInWord_cons, startsInWord_cons]

/-- Before a text, only its own last character counts, if it has one. -/
theorem endsInWord_append_congr (text : List Char) {before left : List Char}
    (front : EndsInWord before ↔ EndsInWord left) :
    EndsInWord (before ++ text) ↔ EndsInWord (left ++ text) := by
  rw [endsInWord_iff_reverse, endsInWord_iff_reverse] at front ⊢
  rw [List.reverse_append, List.reverse_append]
  exact startsInWord_append_congr text.reverse front

section Separator

variable {separator : Char} (separates : ¬ IsWordChar separator)
include separates

/-- A separator behind a text is no edge of a word that the end of the text is not. -/
theorem startsInWord_append_separator (after rest : List Char) :
    StartsInWord (after ++ separator :: rest) ↔ StartsInWord after := by
  have ending : StartsInWord (separator :: rest) ↔ StartsInWord [] := by
    rw [startsInWord_cons]
    exact iff_of_false separates startsInWord_nil
  have same := startsInWord_append_congr after ending
  rwa [List.append_nil] at same

/-- A separator before a text is no edge of a word that the start of the text is not. -/
theorem endsInWord_separator_append (rest before : List Char) :
    EndsInWord (rest ++ separator :: before) ↔ EndsInWord before := by
  rw [endsInWord_iff_reverse, endsInWord_iff_reverse, List.reverse_append, List.reverse_cons,
    List.append_assoc, List.singleton_append]
  exact startsInWord_append_separator separates before.reverse rest.reverse

end Separator

namespace Pattern

/-! ## Patterns in larger texts -/

/-- What a pattern describes, it describes wherever the edges of words are the same. In a sequence,
each half is a part of the surroundings of the other. -/
theorem Describes.of_edges {pattern : Pattern} {before stretch after left right : List Char}
    (front : EndsInWord before ↔ EndsInWord left) (behind : StartsInWord after ↔ StartsInWord right)
    (describes : pattern.Describes before stretch after) :
    pattern.Describes left stretch right := by
  induction pattern generalizing before stretch after left right with
  | empty => exact describes
  | one characters => exact describes
  | many characters => exact describes
  | boundary =>
    obtain ⟨nothing, edge⟩ := describes
    refine ⟨nothing, ?_⟩
    rwa [← front, ← behind]
  | sequence first second firstHypothesis secondHypothesis =>
    obtain ⟨start, rest, split, firstDescribes, secondDescribes⟩ := describes
    refine ⟨start, rest, split, ?_, ?_⟩
    · exact firstHypothesis front (startsInWord_append_congr rest behind) firstDescribes
    · exact secondHypothesis (endsInWord_append_congr start front) behind secondDescribes
  | choice first second firstHypothesis secondHypothesis =>
    rcases describes with describes | describes
    · exact Or.inl (firstHypothesis front behind describes)
    · exact Or.inr (secondHypothesis front behind describes)

section Separator

variable {pattern : Pattern} {separator : Char} (separates : ¬ IsWordChar separator)
include separates

/-- A pattern found in the first of two separated texts is found in both together. -/
theorem Occurs.joined_first {first : List Char} (occurs : pattern.Occurs first)
    (second : List Char) : pattern.Occurs (first ++ separator :: second) := by
  obtain ⟨before, stretch, after, rfl, describes⟩ := occurs
  refine ⟨before, stretch, after ++ separator :: second, ?_, ?_⟩
  · rw [List.append_assoc (before ++ stretch)]
  · exact describes.of_edges Iff.rfl (startsInWord_append_separator separates after second).symm

/-- A pattern found in the second of two separated texts is found in both together. -/
theorem Occurs.joined_second {second : List Char} (occurs : pattern.Occurs second)
    (first : List Char) : pattern.Occurs (first ++ separator :: second) := by
  obtain ⟨before, stretch, after, rfl, describes⟩ := occurs
  refine ⟨first ++ separator :: before, stretch, after, ?_, ?_⟩
  · simp only [List.append_assoc, List.cons_append]
  · exact describes.of_edges (endsInWord_separator_append separates first before).symm Iff.rfl

end Separator

/-! ## Patterns made of characters of words -/

end Pattern

/-- All characters of the class are characters of words. -/
def CharClass.inWords : CharClass → Bool
  | .letter c => isWordChar c
  | .among options => options.all isWordChar
  | .digit => true
  | .anyInLine => false

/-- A class of characters of words includes nothing else. -/
theorem CharClass.isWordChar_of_includes {characters : CharClass}
    (inWords : characters.inWords = true) {c : Char} (included : characters.Includes c) :
    IsWordChar c := by
  cases characters with
  | letter option =>
    have isWord : IsWordChar option := (isWordChar_iff option).mp inWords
    exact (isWordChar_iff_of_sameLetter included).mp isWord
  | among options =>
    obtain ⟨option, member, letter⟩ := included
    have isWord : isWordChar option = true := List.all_eq_true.mp inWords option member
    exact (isWordChar_iff_of_sameLetter letter).mp ((isWordChar_iff option).mp isWord)
  | digit => exact Or.inr (Or.inr (Or.inl included))
  | anyInLine => cases inWords

namespace Pattern

/-- All characters that the pattern asks for are characters of words. -/
def inWords : Pattern → Bool
  | .empty => true
  | .one characters => characters.inWords
  | .many characters => characters.inWords
  | .boundary => true
  | .sequence first second => first.inWords && second.inWords
  | .choice left right => left.inWords && right.inWords

/-- Such a pattern describes stretches of characters of words only. -/
theorem Describes.isWordChar {pattern : Pattern} (inWords : pattern.inWords = true)
    {before stretch after : List Char} (describes : pattern.Describes before stretch after) :
    ∀ c ∈ stretch, IsWordChar c := by
  induction pattern generalizing before stretch after with
  | empty =>
    obtain rfl := describes
    simp
  | one characters =>
    obtain ⟨c, rfl, included⟩ := describes
    exact List.forall_mem_singleton.mpr (characters.isWordChar_of_includes inWords included)
  | many characters =>
    intro c member
    exact characters.isWordChar_of_includes inWords (describes c member)
  | boundary =>
    obtain ⟨rfl, _⟩ := describes
    simp
  | sequence first second firstHypothesis secondHypothesis =>
    obtain ⟨firstInWords, secondInWords⟩ := Bool.and_eq_true_iff.mp inWords
    obtain ⟨start, rest, rfl, firstDescribes, secondDescribes⟩ := describes
    intro c member
    rcases List.mem_append.mp member with member | member
    · exact firstHypothesis firstInWords firstDescribes c member
    · exact secondHypothesis secondInWords secondDescribes c member
  | choice left right leftHypothesis rightHypothesis =>
    obtain ⟨leftInWords, rightInWords⟩ := Bool.and_eq_true_iff.mp inWords
    rcases describes with describes | describes
    · exact leftHypothesis leftInWords describes
    · exact rightHypothesis rightInWords describes

/-- A stretch without the separator lies before it or behind it. -/
theorem stretch_beside_separator {separator : Char} {before stretch after first second : List Char}
    (absent : separator ∉ stretch)
    (split : first ++ separator :: second = before ++ stretch ++ after) :
    (∃ rest, first = before ++ stretch ++ rest ∧ after = rest ++ separator :: second) ∨
      ∃ rest, second = rest ++ stretch ++ after ∧ before = first ++ separator :: rest := by
  rcases List.append_eq_append_iff.mp split with ⟨rest, front, remaining⟩ | ⟨rest, rfl, behind⟩
  · cases rest with
    | nil =>
      rw [List.nil_append] at remaining
      rw [List.append_nil] at front
      exact Or.inl ⟨[], by rw [List.append_nil, front], remaining.symm⟩
    | cons c rest =>
      obtain ⟨rfl, rfl⟩ := List.cons.inj remaining
      -- The separator is in the text up to the end of the stretch, and so before the stretch.
      rcases List.append_eq_append_iff.mp front with ⟨gap, rfl, gapped⟩ | ⟨gap, rfl, gapped⟩
      · exact absurd (gapped ▸ List.mem_append_right gap List.mem_cons_self) absent
      · cases gap with
        | nil =>
          rw [List.nil_append] at gapped
          exact absurd (gapped ▸ List.mem_cons_self) absent
        | cons d gap =>
          obtain ⟨rfl, rfl⟩ := List.cons.inj gapped
          exact Or.inr ⟨gap, rfl, rfl⟩
  · exact Or.inl ⟨rest, rfl, behind⟩

/-- A pattern made of characters of words is found in two separated texts only if it is found in
one. -/
theorem occurs_joined_iff {pattern : Pattern} (inWords : pattern.inWords = true) {separator : Char}
    (separates : ¬ IsWordChar separator) (first second : List Char) :
    pattern.Occurs (first ++ separator :: second) ↔
      pattern.Occurs first ∨ pattern.Occurs second := by
  constructor
  · rintro ⟨before, stretch, after, split, describes⟩
    have absent : separator ∉ stretch :=
      fun member => separates (describes.isWordChar inWords _ member)
    rcases stretch_beside_separator absent split with ⟨rest, rfl, rfl⟩ | ⟨rest, rfl, rfl⟩
    · have edge := startsInWord_append_separator separates rest second
      exact Or.inl ⟨before, stretch, rest, rfl, describes.of_edges Iff.rfl edge⟩
    · have edge := endsInWord_separator_append separates first rest
      exact Or.inr ⟨rest, stretch, after, rfl, describes.of_edges edge Iff.rfl⟩
  · rintro (occurs | occurs)
    · exact occurs.joined_first separates second
    · exact occurs.joined_second separates first

end Pattern

namespace Quality

/-! ## Tables of rules -/

/-- Two titles with a character between them. -/
def joined (first : String) (separator : Char) (second : String) : String :=
  first ++ String.singleton separator ++ second

/-- The characters of the joined title are those of both, with the separator between them. -/
theorem toList_joined (first : String) (separator : Char) (second : String) :
    (joined first separator second).toList = first.toList ++ separator :: second.toList := by
  simp [joined]

/-- The place in a table of the first rule whose pattern occurs in the title. -/
def earnedPlace? (rules : List Rule) (title : String) : Option Nat :=
  rules.findIdx? fun rule => rule.pattern.occursIn title.toList

/-- The label at this place. -/
def earnedLabel? (rules : List Rule) (title : String) : Option String :=
  (earnedPlace? rules title).bind fun place => rules[place]?.map (·.label)

/-- A table gives a title the label at the place that it earns. -/
theorem firstLabel?_eq_earnedLabel? (rules : List Rule) (title : String) :
    firstLabel? rules title.toList = earnedLabel? rules title := by
  induction rules with
  | nil => rfl
  | cons rule rules inductionHypothesis =>
    rw [firstLabel?, earnedLabel?, earnedPlace?] at inductionHypothesis ⊢
    rw [List.find?_cons, List.findIdx?_cons]
    cases rule.pattern.occursIn title.toList with
    | true => rfl
    | false =>
      rw [inductionHypothesis]
      simp [Option.bind_map]

/-- A table gives a label exactly if the title earns a place. -/
theorem isSome_firstLabel? (rules : List Rule) (title : String) :
    (firstLabel? rules title.toList).isSome = (earnedPlace? rules title).isSome := by
  rw [firstLabel?, earnedPlace?, Option.isSome_map, List.findIdx?_isSome, Bool.eq_iff_iff,
    List.find?_isSome, List.any_eq_true]

/-- A title in which no less is found gets no later rule. -/
theorem earnedPlace?_le {rules : List Rule} {title other : String}
    (kept : ∀ rule ∈ rules, rule.pattern.Occurs title.toList → rule.pattern.Occurs other.toList)
    {place : Nat} (earned : earnedPlace? rules title = some place) :
    ∃ earlier ≤ place, earnedPlace? rules other = some earlier := by
  induction rules generalizing place with
  | nil => cases earned
  | cons rule rules inductionHypothesis =>
    obtain ⟨keptHere, keptLater⟩ := List.forall_mem_cons.mp kept
    rw [earnedPlace?, List.findIdx?_cons] at earned ⊢
    by_cases found : rule.pattern.occursIn other.toList = true
    · rw [if_pos found]
      exact ⟨0, Nat.zero_le place, rfl⟩
    · have absent : ¬ rule.pattern.occursIn title.toList = true := by
        rw [Pattern.occursIn_iff] at found ⊢
        exact mt keptHere found
      rw [if_neg absent] at earned
      rw [if_neg found]
      obtain ⟨before, earnedLater, rfl⟩ := Option.map_eq_some_iff.mp earned
      obtain ⟨earlier, below, earnedEarlier⟩ := inductionHypothesis keptLater earnedLater
      rw [earnedPlace?] at earnedEarlier
      refine ⟨earlier + 1, Nat.succ_le_succ below, ?_⟩
      rw [earnedEarlier, Option.map_some]

section Separator

variable {separator : Char} (separates : ¬ IsWordChar separator)
include separates

/-- A joined title gets no later rule than either of its parts. -/
theorem earnedPlace?_joined_le (rules : List Rule) (first second : String) {place : Nat}
    (earned : earnedPlace? rules first = some place ∨ earnedPlace? rules second = some place) :
    ∃ earlier ≤ place, earnedPlace? rules (joined first separator second) = some earlier := by
  rcases earned with earned | earned
  · apply earnedPlace?_le _ earned
    intro rule _ occurs
    rw [toList_joined]
    exact occurs.joined_first separates second.toList
  · apply earnedPlace?_le _ earned
    intro rule _ occurs
    rw [toList_joined]
    exact occurs.joined_second separates first.toList

/-- A joined title has every attribute that one of its parts has. -/
theorem isSome_firstLabel?_joined (rules : List Rule) (first second : String)
    (labelled : (firstLabel? rules first.toList).isSome = true ∨
      (firstLabel? rules second.toList).isSome = true) :
    (firstLabel? rules (joined first separator second).toList).isSome = true := by
  rw [isSome_firstLabel?, isSome_firstLabel?, Option.isSome_iff_exists, Option.isSome_iff_exists,
    ← exists_or] at labelled
  obtain ⟨place, earned⟩ := labelled
  obtain ⟨earlier, _, found⟩ := earnedPlace?_joined_le separates rules first second earned
  rw [isSome_firstLabel?, found, Option.isSome_some]

/-- Where no pattern can reach across the separator, the joined title gets the earlier of its parts'
rules. -/
theorem earnedPlace?_joined {rules : List Rule}
    (inWords : ∀ rule ∈ rules, rule.pattern.inWords = true) (first second : String) :
    earnedPlace? rules (joined first separator second) =
      (earnedPlace? rules first).merge min (earnedPlace? rules second) := by
  induction rules with
  | nil => rfl
  | cons rule rules inductionHypothesis =>
    obtain ⟨here, later⟩ := List.forall_mem_cons.mp inWords
    have either : rule.pattern.occursIn (joined first separator second).toList =
        (rule.pattern.occursIn first.toList || rule.pattern.occursIn second.toList) := by
      rw [Bool.eq_iff_iff, Bool.or_eq_true, Pattern.occursIn_iff, Pattern.occursIn_iff,
        Pattern.occursIn_iff, toList_joined]
      exact Pattern.occurs_joined_iff here separates first.toList second.toList
    have remaining := inductionHypothesis later
    simp only [earnedPlace?, List.findIdx?_cons, either] at remaining ⊢
    rw [remaining]
    generalize rules.findIdx? (fun rule => rule.pattern.occursIn first.toList) = left
    generalize rules.findIdx? (fun rule => rule.pattern.occursIn second.toList) = right
    cases rule.pattern.occursIn first.toList <;> cases rule.pattern.occursIn second.toList <;>
      cases left <;> cases right <;> simp [Nat.succ_min_succ]

end Separator

/-! ## Attributes of joined titles -/

/-- The second title has every attribute that the first has, though its value may be another one. -/
structure KeepsAttributes (title other : String) : Prop where
  resolution : (ofTitle title).resolution.isSome → (ofTitle other).resolution.isSome
  source : (ofTitle title).source.isSome → (ofTitle other).source.isSome
  codec : (ofTitle title).codec.isSome → (ofTitle other).codec.isSome
  audio : (ofTitle title).audio.isSome → (ofTitle other).audio.isSome
  hdrFormat : (ofTitle title).hdrFormat.isSome → (ofTitle other).hdrFormat.isSome
  hdr : (ofTitle title).hdr → (ofTitle other).hdr
  proper : (ofTitle title).proper → (ofTitle other).proper
  repack : (ofTitle title).repack → (ofTitle other).repack

/-- The attributes of a title are the labels at the places that it earns in the tables. -/
structure LabelledByPlaces (title : String) : Prop where
  resolution : (ofTitle title).resolution = earnedLabel? resolutionRules title
  source : (ofTitle title).source = earnedLabel? sourceRules title
  codec : (ofTitle title).codec = earnedLabel? codecRules title
  audio : (ofTitle title).audio = earnedLabel? audioRules title
  hdrFormat : (ofTitle title).hdrFormat = earnedLabel? hdrRules title

/-- Every attribute is read from its own table. -/
theorem labelledByPlaces (title : String) : LabelledByPlaces title where
  resolution := firstLabel?_eq_earnedLabel? resolutionRules title
  source := firstLabel?_eq_earnedLabel? sourceRules title
  codec := firstLabel?_eq_earnedLabel? codecRules title
  audio := firstLabel?_eq_earnedLabel? audioRules title
  hdrFormat := firstLabel?_eq_earnedLabel? hdrRules title

/-- Two titles joined by a character that is none of words: no table gives the joined title a later
rule than it gives one of the two, the resolution is the better of both, the joined title is a
corrected or repacked release exactly if one of the two is, and no attribute of either is lost. The
places spoken of are those of the labels that the titles have. -/
theorem joined_titles_keep_attributes {separator : Char} (separates : ¬ IsWordChar separator)
    (first second : String) :
    (∀ rules ∈ [resolutionRules, sourceRules, codecRules, audioRules, hdrRules], ∀ place,
        earnedPlace? rules first = some place ∨ earnedPlace? rules second = some place →
          ∃ earlier ≤ place, earnedPlace? rules (joined first separator second) = some earlier) ∧
      earnedPlace? resolutionRules (joined first separator second) =
        (earnedPlace? resolutionRules first).merge min (earnedPlace? resolutionRules second) ∧
      ((ofTitle (joined first separator second)).proper = true ↔
        (ofTitle first).proper = true ∨ (ofTitle second).proper = true) ∧
      ((ofTitle (joined first separator second)).repack = true ↔
        (ofTitle first).repack = true ∨ (ofTitle second).repack = true) ∧
      KeepsAttributes first (joined first separator second) ∧
      KeepsAttributes second (joined first separator second) ∧
      ∀ title ∈ [first, second, joined first separator second], LabelledByPlaces title := by
  have flag (pattern : Pattern) (inWords : pattern.inWords = true) :
      pattern.occursIn (joined first separator second).toList = true ↔
        pattern.occursIn first.toList = true ∨ pattern.occursIn second.toList = true := by
    rw [Pattern.occursIn_iff, Pattern.occursIn_iff, Pattern.occursIn_iff, toList_joined]
    exact Pattern.occurs_joined_iff inWords separates first.toList second.toList
  have proper := flag properPattern (by decide)
  have repack := flag repackPattern (by decide)
  have labelled (rules : List Rule) := isSome_firstLabel?_joined separates rules first second
  refine ⟨?places, earnedPlace?_joined separates (by decide) first second, proper, repack, ?ofFirst,
    ?ofSecond, fun title _ => labelledByPlaces title⟩
  case places =>
    intro rules _ place earned
    exact earnedPlace?_joined_le separates rules first second earned
  case ofFirst =>
    constructor
    case proper => exact fun holds => proper.mpr (Or.inl holds)
    case repack => exact fun holds => repack.mpr (Or.inl holds)
    all_goals exact fun holds => labelled _ (Or.inl holds)
  case ofSecond =>
    constructor
    case proper => exact fun holds => proper.mpr (Or.inr holds)
    case repack => exact fun holds => repack.mpr (Or.inr holds)
    all_goals exact fun holds => labelled _ (Or.inr holds)

/-- The part behind the point makes the sound a more special one, and the resolution the larger of
two. -/
theorem atmos_behind_the_point_is_heard :
    ¬ IsWordChar '.' ∧ earnedPlace? audioRules "Movie.720p.TrueHD.7.1" = some 2 ∧
      (∃ earlier ≤ 2, earnedPlace? audioRules (joined "Movie.720p.TrueHD.7.1" '.' "Atmos.1080p") =
        some earlier) ∧
      earnedPlace? resolutionRules (joined "Movie.720p.TrueHD.7.1" '.' "Atmos.1080p") = some 1 ∧
      (ofTitle (joined "Movie.720p.TrueHD.7.1" '.' "Atmos.1080p")).audio = some "TrueHD Atmos" := by
  have separates : ¬ IsWordChar '.' := mt (isWordChar_iff '.').mpr (by decide)
  have earned : earnedPlace? audioRules "Movie.720p.TrueHD.7.1" = some 2 := by decide
  obtain ⟨places, resolution, -⟩ :=
    joined_titles_keep_attributes separates "Movie.720p.TrueHD.7.1" "Atmos.1080p"
  have better : (earnedPlace? resolutionRules "Movie.720p.TrueHD.7.1").merge min
      (earnedPlace? resolutionRules "Atmos.1080p") = some 1 := by decide
  exact ⟨separates, earned, places audioRules (by simp) 2 (Or.inl earned),
    resolution.trans better, by decide⟩

end Quality

end ReleaseFinder
