import Mathlib
import ReleaseFinder.Text.LowerCase

/-!
# The two forms of the small sigma

The lower case of a text is made character by character, and only a capital sigma looks around: it
becomes the final sigma where a word ends. `lowerBetween` is the lower case of a text that stands
within another, and `wordEnds` is what its sigmas see there. The lower case of a text within another
is its own lower case if the sigmas see the same.

What they see depends on the first character on either side that is not ignored. If the text has one
of its own, nothing outside matters. So a letter put before the text and a letter put after it tell
whether anything outside can matter: a text is `Settled` if neither changes a form. Exactly the
settled texts occur, in lower case, in every text that they occur in
(`infix_lowerChars_iff_settled`). The others have a small sigma of some form less within a longer
text, which is why counting refutes the occurrence.
-/

namespace ReleaseFinder.Text

/-- The small sigma at the end of a word, or at another place. -/
def smallSigma (final : Bool) : Char :=
  if final then 'ς' else 'σ'

/-- The two small sigmas are different. -/
theorem smallSigma_inj {final other : Bool} :
    smallSigma final = smallSigma other ↔ final = other := by
  revert final other
  decide

/-- For each capital sigma of a text, in order, whether it ends a word between the characters
`before`, nearest first, and `after`. -/
def wordEnds (before : List Char) : List Char → List Char → List Bool
  | [], _ => []
  | c :: text, after =>
    if c = 'Σ' then endsWord before (text ++ after) :: wordEnds (c :: before) text after
    else wordEnds (c :: before) text after

/-- The lower case of a text between the characters `before`, nearest first, and `after`. -/
def lowerBetween (before : List Char) : List Char → List Char → List Char
  | [], _ => []
  | c :: text, after =>
    lowerInContext before c (text ++ after) ++ lowerBetween (c :: before) text after

variable {before others after rest text : List Char}

/-- With nothing after it, a text has its lower case after the characters before it. -/
theorem lowerAfter_eq_lowerBetween (before text : List Char) :
    lowerAfter before text = lowerBetween before text [] := by
  induction text generalizing before with
  | nil => rfl
  | cons c text inductionHypothesis =>
    rw [lowerAfter, lowerBetween, inductionHypothesis, List.append_nil]

/-- With nothing around it, a text has its lower case. -/
theorem lowerChars_eq_lowerBetween (text : List Char) : lowerChars text = lowerBetween [] text [] :=
  lowerAfter_eq_lowerBetween [] text

/-- The lower case of a text in two parts is made of those of the parts, each with the other beside
it. -/
theorem lowerBetween_append (before first second after : List Char) :
    lowerBetween before (first ++ second) after =
      lowerBetween before first (second ++ after) ++
        lowerBetween (first.reverse ++ before) second after := by
  induction first generalizing before with
  | nil => rfl
  | cons c first inductionHypothesis =>
    rw [List.cons_append, lowerBetween, lowerBetween, inductionHypothesis]
    simp only [List.append_assoc, List.reverse_cons, List.singleton_append]

/-- A capital sigma becomes the small sigma that its surroundings ask for. -/
theorem lowerInContext_sigma (before after : List Char) :
    lowerInContext before 'Σ' after = [smallSigma (endsWord before after)] :=
  rfl

/-- Every other character has the same image everywhere. -/
theorem lowerInContext_of_ne {c : Char} (other : c ≠ 'Σ') :
    lowerInContext before c after = lowerInContext others c rest := by
  rw [lowerInContext, lowerInContext, if_neg other, if_neg other]

/-- Related texts have related lower cases if their capital sigmas stand in the same places and see
the same, and the images of all other characters are related. -/
theorem forall₂_lowerBetween (related : Char → Char → Prop) (same : ∀ c, related c c)
    (image : ∀ {c d}, related c d → c ≠ d → c ≠ 'Σ' ∧ d ≠ 'Σ' ∧ ∀ before others after rest,
      List.Forall₂ related (lowerInContext before c after) (lowerInContext others d rest))
    {first second : List Char} (texts : List.Forall₂ related first second)
    (ends : wordEnds before first after = wordEnds others second rest) :
    List.Forall₂ related (lowerBetween before first after) (lowerBetween others second rest) := by
  -- What is before the texts grows with each character, so it is free in the induction.
  induction texts generalizing before others with
  | nil => exact .nil
  | @cons c d first second letter texts inductionHypothesis =>
    rw [lowerBetween, lowerBetween]
    rw [wordEnds, wordEnds] at ends
    by_cases equal : c = d
    · subst equal
      by_cases sigma : c = 'Σ'
      · subst sigma
        rw [if_pos rfl, if_pos rfl] at ends
        obtain ⟨here, later⟩ := List.cons.inj ends
        rw [lowerInContext_sigma, lowerInContext_sigma, here]
        exact .cons (same _) (inductionHypothesis later)
      · rw [if_neg sigma, if_neg sigma] at ends
        have images : lowerInContext before c (first ++ after) =
            lowerInContext others c (second ++ rest) :=
          lowerInContext_of_ne sigma
        rw [images]
        exact List.rel_append (List.forall₂_same.mpr fun d _ => same d) (inductionHypothesis ends)
    · obtain ⟨firstOther, secondOther, images⟩ := image letter equal
      rw [if_neg firstOther, if_neg secondOther] at ends
      exact List.rel_append (images _ _ _ _) (inductionHypothesis ends)

/-- A text has one lower case wherever its sigmas see the same. -/
theorem lowerBetween_eq_of_wordEnds_eq
    (ends : wordEnds before text after = wordEnds others text rest) :
    lowerBetween before text after = lowerBetween others text rest := by
  have equal := forall₂_lowerBetween Eq (fun _ => rfl)
    (fun same different => absurd same different) (List.forall₂_same.mpr fun _ _ => rfl) ends
  rwa [List.forall₂_eq_eq_eq] at equal

/-- A text that stands within another stands there in lower case too, if its sigmas see there what
they see in the text alone. -/
theorem infix_lowerChars_of_wordEnds_eq
    (ends : wordEnds before.reverse text after = wordEnds [] text []) :
    lowerChars text <:+: lowerChars (before ++ text ++ after) := by
  refine ⟨lowerBetween [] before (text ++ after),
    lowerBetween (text.reverse ++ before.reverse) after [], ?_⟩
  simp only [lowerChars_eq_lowerBetween]
  rw [lowerBetween_append, lowerBetween_append, ← lowerBetween_eq_of_wordEnds_eq ends]
  simp only [List.append_nil, List.reverse_append]

/-- Between two surroundings, a text gains as many small sigmas of one form as its capital sigmas
gain places of the kind. -/
theorem count_lowerBetween_add_count_wordEnds (final : Bool)
    (before others text after rest : List Char) :
    (lowerBetween before text after).count (smallSigma final) +
      (wordEnds others text rest).count final =
      (lowerBetween others text rest).count (smallSigma final) +
        (wordEnds before text after).count final := by
  have sigma (before after : List Char) :
      (lowerInContext before 'Σ' after).count (smallSigma final) =
        if endsWord before after = final then 1 else 0 := by
    rw [lowerInContext_sigma, List.count_singleton]
    simp only [beq_iff_eq, smallSigma_inj]
  induction text generalizing before others with
  | nil => rfl
  | cons c text inductionHypothesis =>
    have later := inductionHypothesis (c :: before) (c :: others)
    rw [lowerBetween, lowerBetween, wordEnds, wordEnds, List.count_append, List.count_append]
    by_cases capital : c = 'Σ'
    · subst capital
      rw [if_pos rfl, if_pos rfl, List.count_cons, List.count_cons, sigma, sigma]
      simp only [beq_iff_eq]
      omega
    · have image : lowerInContext before c (text ++ after) =
          lowerInContext others c (text ++ rest) :=
        lowerInContext_of_ne capital
      rw [if_neg capital, if_neg capital, image]
      omega

/-! ## What stands outside -/

/-- What a text goes on with past the characters that are ignored: a letter, another character, or
nothing. -/
def onward? (text : List Char) : Option Bool :=
  (text.find? fun c => !isIgnorable c).map isCased

/-- A text meets a letter if it goes on with one. -/
theorem meetsLetter_eq_onward? (text : List Char) :
    meetsLetter text = (onward? text == some true) := by
  rw [meetsLetter, onward?]
  induction text with
  | nil => rfl
  | cons c text inductionHypothesis =>
    rw [List.dropWhile_cons, List.find?_cons]
    cases isIgnorable c with
    | true => simpa using inductionHypothesis
    | false => simp

/-- What stands behind a text matters only if the text has nothing but ignored characters. -/
theorem onward?_append (first second : List Char) :
    onward? (first ++ second) = (onward? first).or (onward? second) := by
  rw [onward?, onward?, onward?, List.find?_append]
  cases first.find? fun c => !isIgnorable c <;> rfl

/-- A place ends a word if a letter comes before it and none after it. -/
theorem endsWord_eq (before after : List Char) :
    endsWord before after = (onward? before == some true && !(onward? after == some true)) := by
  rw [endsWord, meetsLetter_eq_onward?, meetsLetter_eq_onward?]

/-- Behind a text, surroundings of which both or neither begin with a letter are alike. -/
theorem meetsLetter_append_congr (same : meetsLetter others = meetsLetter rest) (text : List Char) :
    meetsLetter (text ++ others) = meetsLetter (text ++ rest) := by
  simp only [meetsLetter_eq_onward?, onward?_append] at same ⊢
  cases onward? text with
  | none => exact same
  | some letter => rfl

/-- All that the sigmas of a text see of its surroundings is whether these begin with a letter. -/
theorem wordEnds_congr (left : meetsLetter before = meetsLetter others)
    (right : meetsLetter after = meetsLetter rest) :
    wordEnds before text after = wordEnds others text rest := by
  induction text generalizing before others with
  | nil => rfl
  | cons c text inductionHypothesis =>
    have here : endsWord before (text ++ after) = endsWord others (text ++ rest) := by
      rw [endsWord, endsWord, left, meetsLetter_append_congr right]
    have later := inductionHypothesis (meetsLetter_append_congr left [c])
    rw [List.singleton_append, List.singleton_append] at later
    rw [wordEnds, wordEnds, here, later]

/-- A letter goes on with a letter. -/
theorem onward?_letter : onward? ['A'] = some true := by
  decide +kernel

/-- A letter before a place can only make it end a word. -/
theorem endsWord_le_letter_before (before after : List Char) :
    endsWord before after ≤ endsWord (before ++ ['A']) after := by
  simp only [endsWord_eq, onward?_append, onward?_letter]
  generalize onward? before = left
  generalize onward? after = right
  revert left right
  decide

/-- A letter after a place can only keep it from ending a word. -/
theorem endsWord_letter_after_le (before after : List Char) :
    endsWord before (after ++ ['A']) ≤ endsWord before after := by
  simp only [endsWord_eq, onward?_append, onward?_letter]
  generalize onward? before = left
  generalize onward? after = right
  revert left right
  decide

/-- If neither a letter before the place nor one after it changes anything, nothing does. -/
theorem endsWord_append_eq (letterBefore : endsWord (before ++ ['A']) after = endsWord before after)
    (letterAfter : endsWord before (after ++ ['A']) = endsWord before after)
    (others rest : List Char) :
    endsWord (before ++ others) (after ++ rest) = endsWord before after := by
  -- On every side stands a letter, another character or nothing, and all 81 cases are looked at.
  simp only [endsWord_eq, onward?_append, onward?_letter] at letterBefore letterAfter ⊢
  generalize onward? before = left at *
  generalize onward? after = right at *
  generalize onward? others = left'
  generalize onward? rest = right'
  revert left right left' right'
  decide

/-! ## Settled texts -/

/-- A letter put before the text or after it changes the form of no sigma. -/
def Settled (text : List Char) : Prop :=
  wordEnds ['A'] text [] = wordEnds [] text [] ∧ wordEnds [] text ['A'] = wordEnds [] text []

instance (text : List Char) : Decidable (Settled text) :=
  inferInstanceAs (Decidable (_ ∧ _))

/-- A text without capital sigmas has no form to change. -/
theorem wordEnds_eq_nil (absent : 'Σ' ∉ text) (before after : List Char) :
    wordEnds before text after = [] := by
  induction text generalizing before with
  | nil => rfl
  | cons c text inductionHypothesis =>
    obtain ⟨other, later⟩ := not_or.mp (mt List.mem_cons.mpr absent)
    rw [wordEnds, if_neg (Ne.symm other), inductionHypothesis later]

/-- A text without a capital sigma is settled. -/
theorem settled_of_not_mem (absent : 'Σ' ∉ text) : Settled text := by
  simp only [Settled, wordEnds_eq_nil absent, and_self]

/-- What the sigmas of a text see in longer surroundings is related to what they see in shorter
ones, if this is so of every place. -/
theorem forall₂_wordEnds (related : Bool → Bool → Prop) (more less : List Char)
    (place : ∀ before after,
      related (endsWord before after) (endsWord (before ++ more) (after ++ less)))
    (before text after : List Char) :
    List.Forall₂ related (wordEnds before text after)
      (wordEnds (before ++ more) text (after ++ less)) := by
  induction text generalizing before with
  | nil => exact .nil
  | cons c text inductionHypothesis =>
    have later := inductionHypothesis (c :: before)
    rw [wordEnds, wordEnds]
    split
    · have here := place before (text ++ after)
      rw [List.append_assoc] at here
      exact .cons here later
    · exact later

/-- If neither a letter before the text nor one after it changes a form, nothing does. -/
theorem wordEnds_append_eq
    (letterBefore : wordEnds (before ++ ['A']) text after = wordEnds before text after)
    (letterAfter : wordEnds before text (after ++ ['A']) = wordEnds before text after)
    (others rest : List Char) :
    wordEnds (before ++ others) text (after ++ rest) = wordEnds before text after := by
  induction text generalizing before with
  | nil => rfl
  | cons c text inductionHypothesis =>
    simp only [wordEnds, ← List.append_assoc, ← List.cons_append] at letterBefore letterAfter ⊢
    by_cases sigma : c = 'Σ'
    · simp only [if_pos sigma] at letterBefore letterAfter ⊢
      obtain ⟨hereBefore, laterBefore⟩ := List.cons.inj letterBefore
      obtain ⟨hereAfter, laterAfter⟩ := List.cons.inj letterAfter
      rw [endsWord_append_eq hereBefore hereAfter, inductionHypothesis laterBefore laterAfter]
    · simp only [if_neg sigma] at letterBefore letterAfter ⊢
      exact inductionHypothesis letterBefore letterAfter

/-- Nothing outside a settled text changes the form of a sigma. -/
theorem Settled.wordEnds_eq (settled : Settled text) (before after : List Char) :
    wordEnds before text after = wordEnds [] text [] := by
  obtain ⟨letterBefore, letterAfter⟩ := settled
  rw [← List.nil_append ['A']] at letterBefore letterAfter
  exact wordEnds_append_eq letterBefore letterAfter before after

/-- Of two lists of truth values of which one is nowhere above the other, it has fewer true ones and
more false ones, or they are equal. -/
theorem eq_or_count_lt_of_forall₂_le {first second : List Bool}
    (below : List.Forall₂ (· ≤ ·) first second) :
    first = second ∨ first.count true < second.count true ∧
      second.count false < first.count false := by
  induction below with
  | nil => exact Or.inl rfl
  | @cons a b first second here later inductionHypothesis =>
    rcases eq_or_lt_of_le here with equal | less
    · subst equal
      rcases inductionHypothesis with equal | ⟨moreTrue, lessFalse⟩
      · exact Or.inl (equal ▸ rfl)
      · rw [List.count_cons, List.count_cons, List.count_cons, List.count_cons]
        omega
    · obtain ⟨rfl, rfl⟩ := Bool.lt_iff.mp less
      right
      have fewer : first.count true ≤ second.count true ∧
          second.count false ≤ first.count false := by
        rcases inductionHypothesis with rfl | ⟨moreTrue, lessFalse⟩
        · exact ⟨le_rfl, le_rfl⟩
        · exact ⟨moreTrue.le, lessFalse.le⟩
      rw [List.count_cons_self, List.count_cons_self, List.count_cons_of_ne (by decide),
        List.count_cons_of_ne (by decide)]
      omega

/-- The letter has one lower case in all surroundings. -/
theorem lowerBetween_letter (before after : List Char) :
    lowerBetween before ['A'] after = ['a'] := by
  have image : lowerInContext before 'A' after = lowerInContext [] 'A' [] :=
    lowerInContext_of_ne (by decide)
  rw [lowerBetween, lowerBetween, List.nil_append, image]
  decide +kernel

/-- The letter is no small sigma of either form. -/
theorem count_letter (final : Bool) : ['a'].count (smallSigma final) = 0 := by
  revert final
  decide

/-- A text does not stand in lower case within one that has fewer small sigmas of some form. -/
theorem not_infix_lowerChars_of_count_lt {part text : List Char} (final : Bool)
    (fewer : (lowerChars text).count (smallSigma final) <
      (lowerChars part).count (smallSigma final)) :
    ¬ lowerChars part <:+: lowerChars text := by
  intro within
  have found := within.sublist.count_le (smallSigma final)
  omega

/-- A letter put before a text brings no small sigma with it. -/
theorem count_lowerChars_letter_before (final : Bool) (text : List Char) :
    (lowerChars (['A'] ++ text)).count (smallSigma final) =
      (lowerBetween ['A'] text []).count (smallSigma final) := by
  rw [lowerChars_eq_lowerBetween, lowerBetween_append, lowerBetween_letter, List.count_append,
    count_letter, Nat.zero_add]
  rfl

/-- A letter put after a text brings no small sigma with it. -/
theorem count_lowerChars_letter_after (final : Bool) (text : List Char) :
    (lowerChars (text ++ ['A'])).count (smallSigma final) =
      (lowerBetween [] text ['A']).count (smallSigma final) := by
  rw [lowerChars_eq_lowerBetween, lowerBetween_append, lowerBetween_letter, List.count_append,
    count_letter, Nat.add_zero]
  rfl

/-- The settled texts are those that occur, in lower case, wherever they occur. -/
theorem infix_lowerChars_iff_settled (part : List Char) :
    (∀ text, part <:+: text → lowerChars part <:+: lowerChars text) ↔ Settled part := by
  constructor
  · intro occurs
    by_contra unsettled
    rcases not_and_or.mp unsettled with before | after
    · -- A letter before the text makes one of its small sigmas final.
      have above := forall₂_wordEnds (· ≤ ·) ['A'] []
        (fun before after => by simpa using endsWord_le_letter_before before after) [] part []
      have fewer := ((eq_or_count_lt_of_forall₂_le above).resolve_left (Ne.symm before)).2
      have balance := count_lowerBetween_add_count_wordEnds false ['A'] [] part [] []
      have within := occurs (['A'] ++ part) (List.suffix_append _ _).isInfix
      refine not_infix_lowerChars_of_count_lt false ?_ within
      rw [count_lowerChars_letter_before, lowerChars_eq_lowerBetween]
      simp only [List.nil_append] at fewer
      omega
    · -- A letter after the text keeps one of its small sigmas from being final.
      have below := forall₂_wordEnds (· ≥ ·) [] ['A']
        (fun before after => by simpa using endsWord_letter_after_le before after) [] part []
      have fewer := ((eq_or_count_lt_of_forall₂_le below.flip).resolve_left after).1
      have balance := count_lowerBetween_add_count_wordEnds true [] [] part ['A'] []
      have within := occurs (part ++ ['A']) (List.prefix_append _ _).isInfix
      refine not_infix_lowerChars_of_count_lt true ?_ within
      rw [count_lowerChars_letter_after, lowerChars_eq_lowerBetween]
      simp only [List.nil_append] at fewer
      omega
  · rintro settled text ⟨before, after, rfl⟩
    exact infix_lowerChars_of_wordEnds_eq (settled.wordEnds_eq before.reverse after)

end ReleaseFinder.Text
