import Mathlib
import ReleaseFinder.Text.LowerCase

/-!
# Texts in lower case

The lower case of a text is its own lower case. It is enough to see this of the single characters:
one that stands in a lower case has itself for an image, whatever is around it. The code points that
have another lower case and those that are put for them are finitely many. Each of the two lists is
written as the bits of one number, and the two numbers have no bit in common.
-/

namespace ReleaseFinder.Text

/-- The character is its own lower case, wherever it stands. -/
def IsLowered (c : Char) : Prop :=
  ∀ before after, lowerInContext before c after = [c]

/-! ## Code points -/

namespace CaseRun

/-- The code points of a run. -/
def points (run : CaseRun) : List Nat :=
  (List.range ((run.last - run.first) / run.step + 1)).map fun place => run.first + place * run.step

/-- The code point that a run puts for one of its own. -/
def image (run : CaseRun) (point : Nat) : Nat :=
  ((point : Int) + run.shift).toNat

/-- A code point that a run holds is among its points. -/
theorem mem_points {run : CaseRun} {point : Nat} (held : run.holds point = true) :
    point ∈ run.points := by
  simp only [holds, Bool.and_eq_true, decide_eq_true_eq, beq_iff_eq] at held
  obtain ⟨⟨above, below⟩, onStep⟩ := held
  refine List.mem_map.mpr ⟨(point - run.first) / run.step, ?_, ?_⟩
  · rw [List.mem_range, Nat.lt_succ_iff]
    exact Nat.div_le_div_right (Nat.sub_le_sub_right below _)
  · rw [Nat.div_mul_cancel (Nat.dvd_of_mod_eq_zero onStep), Nat.add_sub_cancel' above]

end CaseRun

/-- The code points of characters that may have another lower case: those of the runs, of capital
sigma and of the dotted capital I. -/
def changedPoints : List Nat :=
  'Σ'.toNat :: 'İ'.toNat :: lowerCaseRuns.flatMap CaseRun.points

/-- The code points that are put for them, and the one for what is no character. -/
def imagePoints : List Nat :=
  ['ς', 'σ', 'i', '\u0307', '\x00'].map Char.toNat ++
    lowerCaseRuns.flatMap fun run => run.points.map run.image

/-- The number that has the bits of the places. -/
def marks (places : List Nat) : Nat :=
  places.foldr (fun place number => number ||| 2 ^ place) 0

/-- The number of the places has the bits of each of them. -/
theorem testBit_marks {places : List Nat} {place : Nat} (member : place ∈ places) :
    (marks places).testBit place = true := by
  induction places with
  | nil => cases member
  | cons first places inductionHypothesis =>
    rw [marks, List.foldr_cons, ← marks, Nat.testBit_or, Nat.testBit_two_pow, Bool.or_eq_true,
      decide_eq_true_eq]
    rcases List.mem_cons.mp member with rfl | later
    · exact Or.inr rfl
    · exact Or.inl (inductionHypothesis later)

/-- The two lists of code points have no bit in common. -/
theorem marks_apart : marks imagePoints &&& marks changedPoints = 0 := by
  decide +kernel

/-- No code point that is put for others may have another lower case. -/
theorem not_changed_of_image {point : Nat} (image : point ∈ imagePoints) :
    point ∉ changedPoints := by
  intro changed
  have both : (marks imagePoints &&& marks changedPoints).testBit point = true := by
    rw [Nat.testBit_and, testBit_marks image, testBit_marks changed, Bool.and_self]
  rw [marks_apart, Nat.zero_testBit] at both
  exact Bool.false_ne_true both

/-! ## Characters -/

/-- A character in no run is its own lower case, but for capital sigma and the dotted capital I. -/
theorem isLowered_of_not_held {c : Char} (notSigma : c ≠ 'Σ') (notDotted : c ≠ 'İ')
    (inNoRun : ∀ run ∈ lowerCaseRuns, ¬ run.holds c.toNat = true) : IsLowered c := by
  intro before after
  rw [lowerInContext, if_neg notSigma, if_neg notDotted, lowerChar, List.find?_eq_none.mpr inNoRun]

/-- A character that is put for others is its own lower case. -/
theorem isLowered_of_image {c : Char} (image : c.toNat ∈ imagePoints) : IsLowered c := by
  have unchanged := not_changed_of_image image
  rw [changedPoints, List.mem_cons, List.mem_cons, not_or, not_or] at unchanged
  obtain ⟨notSigma, notDotted, inNoRun⟩ := unchanged
  refine isLowered_of_not_held (mt (congrArg Char.toNat) notSigma)
    (mt (congrArg Char.toNat) notDotted) ?_
  intro run inTable held
  exact inNoRun (List.mem_flatMap.mpr ⟨run, inTable, CaseRun.mem_points held⟩)

/-- The character of a valid code point has this code point. -/
theorem toNat_ofNat_of_isValidChar {point : Nat} (valid : point.isValidChar) :
    (Char.ofNat point).toNat = point := by
  rw [Char.ofNat, dif_pos valid]
  rfl

/-- The image of a character in a run is its own lower case. -/
theorem isLowered_image {run : CaseRun} (inTable : run ∈ lowerCaseRuns) {point : Nat}
    (held : run.holds point = true) : IsLowered (Char.ofNat (run.image point)) := by
  apply isLowered_of_image
  by_cases valid : (run.image point).isValidChar
  · rw [toNat_ofNat_of_isValidChar valid]
    have isImage : run.image point ∈ run.points.map run.image :=
      List.mem_map_of_mem (CaseRun.mem_points held)
    exact List.mem_append_right _ (List.mem_flatMap.mpr ⟨run, inTable, isImage⟩)
  · have null : Char.ofNat (run.image point) = '\x00' := dif_neg valid
    rw [null]
    exact List.mem_append_left _ (by decide)

/-- The lower-case image of a character is its own lower case, where it does not depend on what is
around and is one character. -/
theorem isLowered_lowerChar {c : Char} (notSigma : c ≠ 'Σ') (notDotted : c ≠ 'İ') :
    IsLowered (lowerChar c) := by
  rw [lowerChar]
  cases found : lowerCaseRuns.find? (·.holds c.toNat) with
  | none => exact isLowered_of_not_held notSigma notDotted (List.find?_eq_none.mp found)
  | some run =>
    have held := List.find?_some found
    exact isLowered_image (List.mem_of_find?_eq_some found) held

/-- All characters that are put for a character are their own lower case. -/
theorem isLowered_of_mem_lowerInContext {before after : List Char} {c d : Char}
    (member : d ∈ lowerInContext before c after) : IsLowered d := by
  have named (listed : d ∈ ['ς', 'σ', 'i', '\u0307', '\x00']) : IsLowered d :=
    isLowered_of_image (List.mem_append_left _ (List.mem_map_of_mem listed))
  by_cases sigma : c = 'Σ'
  · rw [lowerInContext, if_pos sigma, List.mem_singleton] at member
    apply named
    split at member <;> simp [member]
  · by_cases dotted : c = 'İ'
    · rw [lowerInContext, if_neg sigma, if_pos dotted] at member
      apply named
      fin_cases member <;> decide
    · rw [lowerInContext, if_neg sigma, if_neg dotted, List.mem_singleton] at member
      exact member ▸ isLowered_lowerChar sigma dotted

/-! ## Texts -/

/-- All characters of a lower case are their own lower case. -/
theorem isLowered_of_mem_lowerChars {text : List Char} {c : Char} (member : c ∈ lowerChars text) :
    IsLowered c := by
  rw [lowerChars] at member
  generalize [] = before at member
  induction text generalizing before with
  | nil => cases member
  | cons d text inductionHypothesis =>
    rw [lowerAfter, List.mem_append] at member
    rcases member with here | later
    · exact isLowered_of_mem_lowerInContext here
    · exact inductionHypothesis _ later

/-- A text of such characters is its own lower case. -/
theorem lowerChars_eq_self {text : List Char} (lowered : ∀ c ∈ text, IsLowered c) :
    lowerChars text = text := by
  rw [lowerChars]
  generalize [] = before
  induction text generalizing before with
  | nil => rfl
  | cons c text inductionHypothesis =>
    obtain ⟨here, later⟩ := List.forall_mem_cons.mp lowered
    rw [lowerAfter, here, inductionHypothesis later, List.singleton_append]

/-- A lower case is its own lower case. -/
theorem lowerChars_lowerChars (text : List Char) : lowerChars (lowerChars text) = lowerChars text :=
  lowerChars_eq_self fun _ member => isLowered_of_mem_lowerChars member

end ReleaseFinder.Text
