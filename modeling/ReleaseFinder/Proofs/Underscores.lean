import ReleaseFinder.Proofs.JoinedTitles

/-!
# Underscores in titles

The words of a release name may be kept apart by points or by underscores. To a query both are
separators, but to a pattern an underscore is a character of words: `HDTV` is no whole word of
`Show_HDTV_x264`, and `web_rip` has none of the separators that the pattern of `WEBRip` allows. So a
title can say less than the same title with a point for each underscore.

It never says more. Patterns ask for edges of words only beside a letter or a digit, and there an
underscore can hide an edge, but not make one; `keepsEdges` reads this off a pattern by following
what its stretches begin and end with. So every pattern found in a title is found with points for
the underscores, and what is found besides stands at an underscore (`occurs_dotted_iff`). The two
titles say the same exactly if no table has a rule that is missed in this way and comes before all
rules that are not (`underscores_are_points_iff`).

Patterns that spell their characters and ask for no edges, such as those of `1080p`, are found in
both alike.
-/

namespace ReleaseFinder

/-- A point in the place of an underscore. -/
def dot (c : Char) : Char :=
  if c = '_' then '.' else c

/-- The text starts with a letter or a digit. -/
def StartsSolid (text : List Char) : Prop :=
  ∃ c, text.head? = some c ∧ c.isAlphanum = true

/-- The text ends with a letter or a digit. -/
def EndsSolid (text : List Char) : Prop :=
  ∃ c, text.getLast? = some c ∧ c.isAlphanum = true

/-! ## Characters -/

/-- Characters other than the underscore stay. -/
theorem dot_of_ne {c : Char} (other : c ≠ '_') : dot c = c :=
  if_neg other

/-- Letters and digits are characters of words. -/
theorem isWordChar_of_isAlphanum {c : Char} (solid : c.isAlphanum = true) : IsWordChar c := by
  rw [← isWordChar_iff, isWordChar, solid, Bool.true_or]

/-- Letters and digits stay. -/
theorem dot_of_isAlphanum {c : Char} (solid : c.isAlphanum = true) : dot c = c := by
  apply dot_of_ne
  rintro rfl
  exact absurd solid (by decide)

/-- No character becomes one of words. -/
theorem isWordChar_of_dot {c : Char} (isWord : IsWordChar (dot c)) : IsWordChar c := by
  by_cases underscore : c = '_'
  · exact Or.inr (Or.inr (Or.inr underscore))
  · rwa [dot_of_ne underscore] at isWord

namespace CharClass

/-- All characters of the class are letters or digits. -/
def solid : CharClass → Bool
  | .letter c => c.isAlphanum
  | .among options => options.all Char.isAlphanum
  | .digit => true
  | .anyInLine => false

/-- Only letters and digits are in a solid class. -/
theorem isAlphanum_of_includes {characters : CharClass} (solid : characters.solid = true) {c : Char}
    (included : characters.Includes c) : c.isAlphanum = true := by
  have either {option c : Char} (letter : Text.SameLetter option c)
      (isSolid : option.isAlphanum = true) :
      c.isAlphanum = true := by
    rwa [← letter.apply_eq Char.isAlphanum (by decide)]
  cases characters with
  | letter option => exact either included solid
  | among options =>
    obtain ⟨option, member, letter⟩ := included
    exact either letter (List.all_eq_true.mp solid option member)
  | digit => simp [Char.isAlphanum, (isDigit_iff c).mpr included]
  | anyInLine => cases solid

/-- With an underscore, the class has the point. -/
def seesPoints (characters : CharClass) : Bool :=
  !characters.accepts '_' || characters.accepts '.'

/-- A class that sees points has the points in the place of its underscores. -/
theorem includes_dot {characters : CharClass} (sees : characters.seesPoints = true) {c : Char}
    (included : characters.Includes c) : characters.Includes (dot c) := by
  by_cases underscore : c = '_'
  · subst underscore
    rw [← accepts_iff] at included
    rw [seesPoints, included, Bool.not_true, Bool.false_or] at sees
    exact (characters.accepts_iff '.').mp sees
  · rwa [dot_of_ne underscore]

end CharClass

/-! ## Edges of words -/

/-- A text that starts with a letter or a digit starts in a word. -/
theorem StartsSolid.startsInWord {text : List Char} (solid : StartsSolid text) :
    StartsInWord text := by
  obtain ⟨c, first, isSolid⟩ := solid
  exact ⟨c, first, isWordChar_of_isAlphanum isSolid⟩

/-- A text that ends with a letter or a digit ends in a word. -/
theorem EndsSolid.endsInWord {text : List Char} (solid : EndsSolid text) : EndsInWord text := by
  obtain ⟨c, last, isSolid⟩ := solid
  exact ⟨c, last, isWordChar_of_isAlphanum isSolid⟩

/-- With points, a text starts with a letter or a digit as before. -/
theorem StartsSolid.dotted {text : List Char} (solid : StartsSolid text) :
    StartsSolid (text.map dot) := by
  obtain ⟨c, first, isSolid⟩ := solid
  refine ⟨c, ?_, isSolid⟩
  rw [List.head?_map, first, Option.map_some, dot_of_isAlphanum isSolid]

/-- With points, a text ends with a letter or a digit as before. -/
theorem EndsSolid.dotted {text : List Char} (solid : EndsSolid text) :
    EndsSolid (text.map dot) := by
  obtain ⟨c, last, isSolid⟩ := solid
  refine ⟨c, ?_, isSolid⟩
  rw [List.getLast?_map, last, Option.map_some, dot_of_isAlphanum isSolid]

/-- Points start no word that does not start in the text itself. -/
theorem startsInWord_of_dotted {text : List Char} (starts : StartsInWord (text.map dot)) :
    StartsInWord text := by
  obtain ⟨_, first, isWord⟩ := starts
  rw [List.head?_map, Option.map_eq_some_iff] at first
  obtain ⟨c, first, rfl⟩ := first
  exact ⟨c, first, isWordChar_of_dot isWord⟩

/-- Points end no word that does not end in the text itself. -/
theorem endsInWord_of_dotted {text : List Char} (ends : EndsInWord (text.map dot)) :
    EndsInWord text := by
  obtain ⟨_, last, isWord⟩ := ends
  rw [List.getLast?_map, Option.map_eq_some_iff] at last
  obtain ⟨c, last, rfl⟩ := last
  exact ⟨c, last, isWordChar_of_dot isWord⟩

/-- Where a text does not start with an underscore, its start is the same with points. -/
theorem startsInWord_dotted_iff {text : List Char} (other : text.head? ≠ some '_') :
    StartsInWord (text.map dot) ↔ StartsInWord text := by
  refine ⟨startsInWord_of_dotted, ?_⟩
  rintro ⟨c, first, isWord⟩
  have kept : dot c = c := dot_of_ne fun underscore => other (underscore ▸ first)
  refine ⟨c, ?_, isWord⟩
  rw [List.head?_map, first, Option.map_some, kept]

/-- Where a text does not end with an underscore, its end is the same with points. -/
theorem endsInWord_dotted_iff {text : List Char} (other : text.getLast? ≠ some '_') :
    EndsInWord (text.map dot) ↔ EndsInWord text := by
  refine ⟨endsInWord_of_dotted, ?_⟩
  rintro ⟨c, last, isWord⟩
  have kept : dot c = c := dot_of_ne fun underscore => other (underscore ▸ last)
  refine ⟨c, ?_, isWord⟩
  rw [List.getLast?_map, last, Option.map_some, kept]

namespace Pattern

/-! ## What stretches begin and end with -/

/-- A stretch of the pattern and what follows it start with a letter or a digit, if `next` says this
of what follows. -/
def startsSolid : Pattern → (next : Bool) → Bool
  | .empty, next => next
  | .one characters, _ => characters.solid
  | .many characters, next => characters.solid && next
  | .boundary, next => next
  | .sequence first second, next => first.startsSolid (second.startsSolid next)
  | .choice left right, next => left.startsSolid next && right.startsSolid next

/-- What precedes a stretch of the pattern and the stretch end with a letter or a digit, if `last`
says this of what precedes. -/
def endsSolid : Pattern → (last : Bool) → Bool
  | .empty, last => last
  | .one characters, _ => characters.solid
  | .many characters, last => characters.solid && last
  | .boundary, last => last
  | .sequence first second, last => second.endsSolid (first.endsSolid last)
  | .choice left right, last => left.endsSolid last && right.endsSolid last

/-- A stretch of a pattern that starts solid starts with a letter or a digit, as does what follows
an empty one. -/
theorem Describes.startsSolid {pattern : Pattern} {next : Bool} {before stretch after : List Char}
    (describes : pattern.Describes before stretch after) (solid : pattern.startsSolid next = true)
    (behind : next = true → StartsSolid after) : StartsSolid (stretch ++ after) := by
  induction pattern generalizing next before stretch after with
  | empty =>
    obtain rfl := describes
    exact behind solid
  | one characters =>
    obtain ⟨c, rfl, included⟩ := describes
    exact ⟨c, rfl, CharClass.isAlphanum_of_includes solid included⟩
  | many characters =>
    obtain ⟨isSolid, following⟩ := Bool.and_eq_true_iff.mp solid
    cases stretch with
    | nil => exact behind following
    | cons c rest =>
      have included := describes c List.mem_cons_self
      exact ⟨c, rfl, CharClass.isAlphanum_of_includes isSolid included⟩
  | boundary =>
    obtain ⟨rfl, _⟩ := describes
    exact behind solid
  | sequence first second firstHypothesis secondHypothesis =>
    obtain ⟨front, rest, rfl, firstDescribes, secondDescribes⟩ := describes
    rw [List.append_assoc]
    apply firstHypothesis firstDescribes solid
    intro following
    exact secondHypothesis secondDescribes following behind
  | choice left right leftHypothesis rightHypothesis =>
    obtain ⟨leftSolid, rightSolid⟩ := Bool.and_eq_true_iff.mp solid
    rcases describes with describes | describes
    · exact leftHypothesis describes leftSolid behind
    · exact rightHypothesis describes rightSolid behind

/-- A stretch of a pattern that ends solid ends with a letter or a digit, as does what precedes an
empty one. -/
theorem Describes.endsSolid {pattern : Pattern} {last : Bool} {before stretch after : List Char}
    (describes : pattern.Describes before stretch after) (solid : pattern.endsSolid last = true)
    (front : last = true → EndsSolid before) : EndsSolid (before ++ stretch) := by
  induction pattern generalizing last before stretch after with
  | empty =>
    obtain rfl := describes
    rw [List.append_nil]
    exact front solid
  | one characters =>
    obtain ⟨c, rfl, included⟩ := describes
    exact ⟨c, List.getLast?_concat, CharClass.isAlphanum_of_includes solid included⟩
  | many characters =>
    obtain ⟨isSolid, preceding⟩ := Bool.and_eq_true_iff.mp solid
    rcases List.eq_nil_or_concat stretch with rfl | ⟨rest, c, rfl⟩
    · rw [List.append_nil]
      exact front preceding
    · have included := describes c (by simp)
      refine ⟨c, ?_, CharClass.isAlphanum_of_includes isSolid included⟩
      rw [List.concat_eq_append, ← List.append_assoc, List.getLast?_concat]
  | boundary =>
    obtain ⟨rfl, _⟩ := describes
    rw [List.append_nil]
    exact front solid
  | sequence first second firstHypothesis secondHypothesis =>
    obtain ⟨start, rest, rfl, firstDescribes, secondDescribes⟩ := describes
    rw [← List.append_assoc]
    apply secondHypothesis secondDescribes solid
    intro preceding
    exact firstHypothesis firstDescribes preceding front
  | choice left right leftHypothesis rightHypothesis =>
    obtain ⟨leftSolid, rightSolid⟩ := Bool.and_eq_true_iff.mp solid
    rcases describes with describes | describes
    · exact leftHypothesis describes leftSolid front
    · exact rightHypothesis describes rightSolid front

/-! ## Points for underscores -/

/-- The pattern asks for edges of words only beside letters and digits, and where it allows an
underscore, it allows a point. `last` and `next` say of what stands before and after that it ends
and starts with a letter or a digit. -/
def keepsEdges : Pattern → (last next : Bool) → Bool
  | .empty, _, _ => true
  | .one characters, _, _ => characters.seesPoints
  | .many characters, _, _ => characters.seesPoints
  | .boundary, last, next => last || next
  | .sequence first second, last, next =>
    first.keepsEdges last (second.startsSolid next) && second.keepsEdges (first.endsSolid last) next
  | .choice left right, last, next => left.keepsEdges last next && right.keepsEdges last next

/-- An edge of a word beside a letter or a digit is one with points for underscores, too. -/
theorem boundary_dotted {before after : List Char} (edge : EndsInWord before ↔ ¬ StartsInWord after)
    (beside : EndsSolid before ∨ StartsSolid after) :
    EndsInWord (before.map dot) ↔ ¬ StartsInWord (after.map dot) := by
  rcases beside with solid | solid
  · have free : ¬ StartsInWord after := edge.mp solid.endsInWord
    exact iff_of_true solid.dotted.endsInWord (mt startsInWord_of_dotted free)
  · have free : ¬ EndsInWord before := fun ends => edge.mp ends solid.startsInWord
    exact iff_of_false (mt endsInWord_of_dotted free) (not_not_intro solid.dotted.startsInWord)

/-- A pattern that keeps the edges describes a stretch with points as well. The induction is on the
pattern; in a sequence, each half is told how the other starts or ends. -/
theorem Describes.dotted {pattern : Pattern} {last next : Bool} {before stretch after : List Char}
    (kept : pattern.keepsEdges last next = true) (front : last = true → EndsSolid before)
    (behind : next = true → StartsSolid after)
      (describes : pattern.Describes before stretch after) :
    pattern.Describes (before.map dot) (stretch.map dot) (after.map dot) := by
  induction pattern generalizing last next before stretch after with
  | empty =>
    obtain rfl := describes
    rfl
  | one characters =>
    obtain ⟨c, rfl, included⟩ := describes
    exact ⟨dot c, rfl, CharClass.includes_dot kept included⟩
  | many characters =>
    intro d member
    obtain ⟨c, inStretch, rfl⟩ := List.mem_map.mp member
    exact CharClass.includes_dot kept (describes c inStretch)
  | boundary =>
    obtain ⟨rfl, edge⟩ := describes
    have beside := (Bool.or_eq_true_iff.mp kept).imp front behind
    exact ⟨rfl, boundary_dotted edge beside⟩
  | sequence first second firstHypothesis secondHypothesis =>
    obtain ⟨firstKept, secondKept⟩ := Bool.and_eq_true_iff.mp kept
    obtain ⟨start, rest, rfl, firstDescribes, secondDescribes⟩ := describes
    refine ⟨start.map dot, rest.map dot, List.map_append, ?_, ?_⟩
    · rw [← List.map_append]
      apply firstHypothesis firstKept front _ firstDescribes
      exact fun following => secondDescribes.startsSolid following behind
    · rw [← List.map_append]
      apply secondHypothesis secondKept _ behind secondDescribes
      exact fun preceding => firstDescribes.endsSolid preceding front
  | choice left right leftHypothesis rightHypothesis =>
    obtain ⟨leftKept, rightKept⟩ := Bool.and_eq_true_iff.mp kept
    rcases describes with describes | describes
    · exact Or.inl (leftHypothesis leftKept front behind describes)
    · exact Or.inr (rightHypothesis rightKept front behind describes)

/-- With points for the underscores, the pattern describes a stretch of the text that has an
underscore in it or right beside it. -/
def OccursAtUnderscore (pattern : Pattern) (text : List Char) : Prop :=
  ∃ before stretch after, text = before ++ stretch ++ after ∧
    pattern.Describes (before.map dot) (stretch.map dot) (after.map dot) ∧
    (before.getLast? = some '_' ∨ '_' ∈ stretch ∨ after.head? = some '_')

/-- Points for underscores take nothing from what is found, and what they add stands at an
underscore. -/
theorem occurs_dotted_iff {pattern : Pattern} (kept : pattern.keepsEdges false false = true)
    (text : List Char) :
    pattern.Occurs (text.map dot) ↔ pattern.Occurs text ∨ pattern.OccursAtUnderscore text := by
  constructor
  · rintro ⟨_, _, _, split, describes⟩
    obtain ⟨_, after, rfl, front, rfl⟩ := List.map_eq_append_iff.mp split
    obtain ⟨before, stretch, rfl, rfl, rfl⟩ := List.map_eq_append_iff.mp front
    by_cases beside : before.getLast? = some '_' ∨ '_' ∈ stretch ∨ after.head? = some '_'
    · exact Or.inr ⟨before, stretch, after, rfl, describes, beside⟩
    · obtain ⟨ending, inside, beginning⟩ : before.getLast? ≠ some '_' ∧ '_' ∉ stretch ∧
          after.head? ≠ some '_' := by
        simpa only [not_or] using beside
      have unchanged : stretch.map dot = stretch := by
        have each : ∀ c ∈ stretch, dot c = id c :=
          fun c member => dot_of_ne fun underscore => inside (underscore ▸ member)
        rw [List.map_congr_left each, List.map_id]
      rw [unchanged] at describes
      have here :=
        describes.of_edges (endsInWord_dotted_iff ending) (startsInWord_dotted_iff beginning)
      exact Or.inl ⟨before, stretch, after, rfl, here⟩
  · rintro (⟨before, stretch, after, rfl, describes⟩ | ⟨before, stretch, after, rfl, describes, _⟩)
    · refine ⟨before.map dot, stretch.map dot, after.map dot, ?_, ?_⟩
      · rw [List.map_append, List.map_append]
      · exact describes.dotted kept (fun no => nomatch no) (fun no => nomatch no)
    · refine ⟨before.map dot, stretch.map dot, after.map dot, ?_, describes⟩
      rw [List.map_append, List.map_append]

/-! ## Words of letters and digits -/

/-- The pattern spells finitely many words, all of letters and digits. -/
def spellsSolid (pattern : Pattern) : Bool :=
  pattern.spellings?.any fun words => words.all fun word => word.all Char.isAlphanum

/-- A stretch that such a pattern describes is made of letters and digits, and is one wherever it
stands. -/
theorem Describes.of_spellsSolid {pattern : Pattern} (solid : pattern.spellsSolid = true)
    {before stretch after : List Char} (describes : pattern.Describes before stretch after) :
    (∀ c ∈ stretch, c.isAlphanum = true) ∧ ∀ left right, pattern.Describes left stretch right := by
  obtain ⟨words, spells, allSolid⟩ := (Option.any_eq_true ..).mp solid
  obtain ⟨word, member, spelled⟩ := (describes_iff_of_spellings spells ..).mp describes
  constructor
  · have wordSolid : ∀ c ∈ word, c.isAlphanum = true :=
      List.all_eq_true.mp (List.all_eq_true.mp allSolid word member)
    refine spelled.forall_mem ?_ wordSolid
    intro c d letter isSolid
    rwa [← letter.apply_eq Char.isAlphanum (by decide)]
  · intro left right
    exact (describes_iff_of_spellings spells ..).mpr ⟨word, member, spelled⟩

/-- Such a pattern sees no difference between underscores and points. -/
theorem occurs_dotted_iff_of_spellsSolid {pattern : Pattern} (solid : pattern.spellsSolid = true)
    (text : List Char) : pattern.Occurs (text.map dot) ↔ pattern.Occurs text := by
  constructor
  · rintro ⟨_, _, _, split, describes⟩
    obtain ⟨_, after, rfl, front, rfl⟩ := List.map_eq_append_iff.mp split
    obtain ⟨before, stretch, rfl, rfl, rfl⟩ := List.map_eq_append_iff.mp front
    obtain ⟨inside, anywhere⟩ := describes.of_spellsSolid solid
    have each : ∀ c ∈ stretch, dot c = id c := by
      intro c member
      apply dot_of_ne
      rintro rfl
      exact absurd (inside _ (List.mem_map_of_mem member)) (by decide)
    rw [List.map_congr_left each, List.map_id] at anywhere
    exact ⟨before, stretch, after, rfl, anywhere before after⟩
  · rintro ⟨before, stretch, after, rfl, describes⟩
    obtain ⟨inside, anywhere⟩ := describes.of_spellsSolid solid
    have each : ∀ c ∈ stretch, dot c = id c := fun c member => dot_of_isAlphanum (inside c member)
    refine ⟨before.map dot, stretch, after.map dot, ?_, anywhere _ _⟩
    rw [List.map_append, List.map_append, List.map_congr_left each, List.map_id]

end Pattern

namespace Quality

open Pattern

/-! ## Labels of titles -/

/-- The title with a point for each underscore. -/
def dotted (title : String) : String :=
  String.ofList (title.toList.map dot)

/-- The characters of the title get points one by one. -/
theorem toList_dotted (title : String) : (dotted title).toList = title.toList.map dot :=
  String.toList_ofList

/-- The tables that give labels. -/
def labelTables : List (List Rule) :=
  [resolutionRules, sourceRules, codecRules, audioRules, hdrRules]

/-- Each rule of the table whose pattern stands at an underscore comes no earlier than one that the
title earns as it is. -/
def NoneMissed (rules : List Rule) (title : String) : Prop :=
  ∀ before rule after, rules = before ++ rule :: after →
    rule.pattern.OccursAtUnderscore title.toList →
    ∃ earned ∈ before ++ [rule], earned.pattern.Occurs title.toList

/-- A table whose first rule occurs gives the label of this rule. -/
theorem firstLabel?_cons_of_occurs {rule : Rule} {text : List Char}
    (occurs : rule.pattern.Occurs text) (rules : List Rule) :
    firstLabel? (rule :: rules) text = some rule.label := by
  rw [firstLabel?, List.find?_cons, (occursIn_iff ..).mpr occurs]
  rfl

/-- A table whose first rule does not occur gives the label of the later ones. -/
theorem firstLabel?_cons_of_not_occurs {rule : Rule} {text : List Char}
    (absent : ¬ rule.pattern.Occurs text) (rules : List Rule) :
    firstLabel? (rule :: rules) text = firstLabel? rules text := by
  rw [← occursIn_iff, Bool.not_eq_true] at absent
  rw [firstLabel?, List.find?_cons, absent]
  rfl

/-- In every rule, an underscore can hide an edge of a word, and not make one. -/
theorem rules_keepEdges : ∀ rules ∈ labelTables, ∀ rule ∈ rules,
    rule.pattern.keepsEdges false false = true := by
  decide

/-- No table gives one label by two rules. -/
theorem labels_distinct : ∀ rules ∈ labelTables, (rules.map (·.label)).Nodup := by
  decide

/-- Titles say the same if they get the same label from each table, and the same flags. -/
theorem ofTitle_eq_iff (first second : String) :
    ofTitle first = ofTitle second ↔
      (∀ rules ∈ labelTables, firstLabel? rules first.toList = firstLabel? rules second.toList) ∧
        properPattern.occursIn first.toList = properPattern.occursIn second.toList ∧
        repackPattern.occursIn first.toList = repackPattern.occursIn second.toList := by
  simp only [labelTables, List.forall_mem_cons, List.not_mem_nil, IsEmpty.forall_iff, implies_true,
    and_true, ofTitle, mk.injEq]
  constructor
  · rintro ⟨resolution, source, codec, audio, -, hdrFormat, proper, repack⟩
    exact ⟨⟨resolution, source, codec, audio, hdrFormat⟩, proper, repack⟩
  · rintro ⟨⟨resolution, source, codec, audio, hdrFormat⟩, proper, repack⟩
    exact ⟨resolution, source, codec, audio, congrArg Option.isSome hdrFormat, hdrFormat,
      proper, repack⟩

/-- Behind a rule that is not earned, nothing is missed if this rule stands at no underscore and
nothing later is missed. -/
theorem noneMissed_cons_iff {rule : Rule} {rules : List Rule} {title : String}
    (unearned : ¬ rule.pattern.Occurs title.toList) :
    NoneMissed (rule :: rules) title ↔
      ¬ rule.pattern.OccursAtUnderscore title.toList ∧ NoneMissed rules title := by
  constructor
  · intro noneMissed
    constructor
    · intro missed
      obtain ⟨earned, member, occurs⟩ := noneMissed [] rule rules rfl missed
      rw [List.nil_append, List.mem_singleton] at member
      exact unearned (member ▸ occurs)
    · intro before other after split missed
      obtain ⟨earned, member, occurs⟩ :=
        noneMissed (rule :: before) other after (split ▸ rfl) missed
      rcases List.mem_cons.mp member with rfl | member
      · exact absurd occurs unearned
      · exact ⟨earned, member, occurs⟩
  · rintro ⟨notHere, noneLater⟩ before other after split missed
    cases before with
    | nil =>
      obtain ⟨rfl, rfl⟩ := List.cons.inj split
      exact absurd missed notHere
    | cons first before =>
      obtain ⟨rfl, later⟩ := List.cons.inj split
      obtain ⟨earned, member, occurs⟩ := noneLater before other after later missed
      exact ⟨earned, List.mem_cons_of_mem _ member, occurs⟩

/-- A table of distinct labels gives a title its label with points for underscores exactly if it
misses no rule that comes first. -/
theorem firstLabel?_dotted_iff {rules : List Rule} (distinct : (rules.map (·.label)).Nodup)
    (kept : ∀ rule ∈ rules, rule.pattern.keepsEdges false false = true) (title : String) :
    firstLabel? rules (dotted title).toList = firstLabel? rules title.toList ↔
      NoneMissed rules title := by
  induction rules with
  | nil => simp [firstLabel?, NoneMissed]
  | cons rule rules inductionHypothesis =>
    rw [List.map_cons, List.nodup_cons] at distinct
    obtain ⟨keptHere, keptLater⟩ := List.forall_mem_cons.mp kept
    have remaining := inductionHypothesis distinct.2 keptLater
    have found := occurs_dotted_iff keptHere title.toList
    rw [toList_dotted] at remaining ⊢
    by_cases earned : rule.pattern.Occurs title.toList
    · rw [firstLabel?_cons_of_occurs earned, firstLabel?_cons_of_occurs (found.mpr (Or.inl earned))]
      refine iff_of_true rfl ?_
      intro before other after split _
      refine ⟨rule, ?_, earned⟩
      cases before with
      | nil => exact List.mem_singleton.mpr (List.cons.inj split).1
      | cons first before => exact (List.cons.inj split).1 ▸ List.mem_cons_self
    · rw [noneMissed_cons_iff earned, firstLabel?_cons_of_not_occurs earned, ← remaining]
      by_cases missed : rule.pattern.OccursAtUnderscore title.toList
      · rw [firstLabel?_cons_of_occurs (found.mpr (Or.inr missed))]
        refine iff_of_false ?_ fun noneMissed => noneMissed.1 missed
        -- A later rule of the table cannot make up for the missed one, since its label is another.
        intro same
        obtain ⟨other, inTable, named⟩ := Option.map_eq_some_iff.mp same.symm
        exact distinct.1 (named ▸ List.mem_map_of_mem (List.mem_of_find?_eq_some inTable))
      · have absent : ¬ rule.pattern.Occurs (title.toList.map dot) :=
          fun occurs => (found.mp occurs).elim earned missed
        rw [firstLabel?_cons_of_not_occurs absent, and_iff_right missed]

/-- A corrected or repacked release is told by a word, which an underscore can hide, too. -/
theorem flag_dotted_iff {pattern : Pattern} (kept : pattern.keepsEdges false false = true)
    (title : String) :
    pattern.occursIn (dotted title).toList = pattern.occursIn title.toList ↔
      (pattern.OccursAtUnderscore title.toList → pattern.occursIn title.toList = true) := by
  rw [Bool.eq_iff_iff, occursIn_iff, occursIn_iff, toList_dotted, occurs_dotted_iff kept]
  exact or_iff_left_iff_imp

/-- With points for underscores, a title gets no later rule. -/
theorem earnedPlace?_dotted_le {rules : List Rule}
    (kept : ∀ rule ∈ rules, rule.pattern.keepsEdges false false = true) {title : String}
    {place : Nat} (earned : earnedPlace? rules title = some place) :
    ∃ earlier ≤ place, earnedPlace? rules (dotted title) = some earlier := by
  apply earnedPlace?_le _ earned
  intro rule inTable occurs
  rw [toList_dotted]
  exact (occurs_dotted_iff (kept rule inTable) title.toList).mpr (Or.inl occurs)

/-- Labels that are spelled in letters and digits are given alike. -/
theorem firstLabel?_dotted_of_spellsSolid {rules : List Rule}
    (solid : ∀ rule ∈ rules, rule.pattern.spellsSolid = true) (text : List Char) :
    firstLabel? rules (text.map dot) = firstLabel? rules text := by
  have same : ∀ rule ∈ rules, rule.pattern.occursIn (text.map dot) =
      rule.pattern.occursIn text := by
    intro rule inTable
    rw [Bool.eq_iff_iff, occursIn_iff, occursIn_iff]
    exact occurs_dotted_iff_of_spellsSolid (solid rule inTable) text
  rw [firstLabel?, firstLabel?, List.find?_congr same]

/-- Only `4k` and `uhd`, as words, give a title another resolution with points for underscores. -/
theorem resolution_dotted (title : String) :
    (ofTitle (dotted title)).resolution = (ofTitle title).resolution ∨
      (ofTitle (dotted title)).resolution = some "2160p" ∧
        (HasWord "4k" (dotted title) ∨ HasWord "uhd" (dotted title)) := by
  by_cases largest : (ofTitle (dotted title)).resolution = some "2160p"
  · rcases (resolution_eq_2160p_iff (dotted title)).mp largest with line | word
    · have named : Contains "2160p" title := by
        rw [← occurs_literal_iff] at line ⊢
        rw [toList_dotted] at line
        exact (occurs_dotted_iff_of_spellsSolid (by decide) title.toList).mp line
      rw [largest, (resolution_eq_2160p_iff title).mpr (Or.inl named)]
      exact Or.inl rfl
    · exact Or.inr ⟨largest, word⟩
  · left
    obtain ⟨first, others, split, label, solid⟩ : ∃ first others,
        resolutionRules = first :: others ∧ first.label = "2160p" ∧
          ∀ rule ∈ others, rule.pattern.spellsSolid = true :=
      ⟨_, _, rfl, rfl, by decide⟩
    have kept : first.pattern.keepsEdges false false = true :=
      rules_keepEdges resolutionRules (by simp [labelTables]) first (split ▸ List.mem_cons_self)
    have absent : ¬ first.pattern.Occurs (title.toList.map dot) := by
      intro occurs
      apply largest
      rw [← label, ← firstLabel?_cons_of_occurs occurs others, ← split, ← toList_dotted]
      rfl
    have absentBefore : ¬ first.pattern.Occurs title.toList :=
      fun occurs => absent ((occurs_dotted_iff kept title.toList).mpr (Or.inl occurs))
    simp only [ofTitle]
    rw [toList_dotted, split, firstLabel?_cons_of_not_occurs absent,
      firstLabel?_cons_of_not_occurs absentBefore, firstLabel?_dotted_of_spellsSolid solid]

/-- No attribute is lost with points for underscores. -/
theorem keepsAttributes_dotted (title : String) : KeepsAttributes title (dotted title) := by
  have labelled (rules : List Rule) (inTables : rules ∈ labelTables)
      (label : (firstLabel? rules title.toList).isSome = true) :
      (firstLabel? rules (dotted title).toList).isSome = true := by
    rw [isSome_firstLabel?, Option.isSome_iff_exists] at label ⊢
    obtain ⟨place, earned⟩ := label
    obtain ⟨earlier, _, found⟩ := earnedPlace?_dotted_le (rules_keepEdges rules inTables) earned
    exact ⟨earlier, found⟩
  have flagged {pattern : Pattern} (kept : pattern.keepsEdges false false = true)
      (occurs : pattern.occursIn title.toList = true) :
        pattern.occursIn (dotted title).toList = true := by
    rw [occursIn_iff] at occurs ⊢
    rw [toList_dotted]
    exact (occurs_dotted_iff kept title.toList).mpr (Or.inl occurs)
  constructor <;> simp only [ofTitle]
  case resolution => exact labelled resolutionRules (by simp [labelTables])
  case source => exact labelled sourceRules (by simp [labelTables])
  case codec => exact labelled codecRules (by simp [labelTables])
  case audio => exact labelled audioRules (by simp [labelTables])
  case hdrFormat => exact labelled hdrRules (by simp [labelTables])
  case hdr => exact labelled hdrRules (by simp [labelTables])
  case proper => exact flagged (by decide)
  case repack => exact flagged (by decide)

/-- Points for the underscores of a title change what it says exactly if a table misses a rule that
comes first, or a word for a corrected or repacked release is missed. They take no attribute away,
and bring no rule that comes later; and they change the resolution only where `4k` or `uhd` becomes
a word. -/
theorem underscores_are_points_iff (title : String) :
    (ofTitle (dotted title) = ofTitle title ↔
        (∀ rules ∈ labelTables, NoneMissed rules title) ∧
          (properPattern.OccursAtUnderscore title.toList → (ofTitle title).proper = true) ∧
          (repackPattern.OccursAtUnderscore title.toList → (ofTitle title).repack = true)) ∧
      KeepsAttributes title (dotted title) ∧
      (∀ rules ∈ labelTables, ∀ place,
        earnedPlace? rules title = some place →
          ∃ earlier ≤ place, earnedPlace? rules (dotted title) = some earlier) ∧
      ((ofTitle (dotted title)).resolution = (ofTitle title).resolution ∨
        (ofTitle (dotted title)).resolution = some "2160p" ∧
          (HasWord "4k" (dotted title) ∨ HasWord "uhd" (dotted title))) := by
  refine ⟨?same, keepsAttributes_dotted title, ?places, resolution_dotted title⟩
  case same =>
    rw [ofTitle_eq_iff, flag_dotted_iff (by decide), flag_dotted_iff (by decide)]
    refine and_congr_left' (forall₂_congr fun rules inTables => ?_)
    exact firstLabel?_dotted_iff (labels_distinct rules inTables)
      (rules_keepEdges rules inTables) title
  case places =>
    intro rules inTables place earned
    exact earnedPlace?_dotted_le (rules_keepEdges rules inTables) earned

/-- The underscores of a name hide its source, and not the lines of its picture or its codec. -/
theorem underscores_hide_the_source :
    ofTitle (dotted "Show_S01E01_1080p_HDTV_x264") ≠ ofTitle "Show_S01E01_1080p_HDTV_x264" ∧
      ofTitle (dotted "Show_S01E01_1080p_HDTV_x264") =
        { resolution := some "1080p", source := some "HDTV", codec := some "x264" } ∧
      ofTitle "Show_S01E01_1080p_HDTV_x264" =
        { resolution := some "1080p", codec := some "x264" } := by
  decide

end Quality

end ReleaseFinder
