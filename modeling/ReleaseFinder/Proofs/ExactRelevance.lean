import Mathlib
import ReleaseFinder.Relevance

/-!
# Relevance in exact numbers

The formula of relevance is written over any numbers that scores can be computed in. Over the
rational numbers nothing is rounded, and it can be said what the counts of an overlap do to it: all
three parts have to be at their best for the highest relevance, and an extra word takes off two at
most.
-/

namespace ReleaseFinder

/-- Exact numbers. -/
instance : Scalar ℚ where
  ofNat := Nat.cast
  decidableLT := inferInstance

namespace Scalar

/-- Whole numbers are themselves as fractions. -/
theorem ofNat_rat (n : Nat) : (ofNat n : ℚ) = n :=
  rfl

/-- Moving a number into a window. -/
theorem window_eq {α : Type} [LinearOrder α] {low high : α} (ordered : low ≤ high) (x : α) :
    (if x < low then low else if high < x then high else x) = max low (min high x) := by
  split_ifs with below above
  · rw [min_eq_right (below.le.trans ordered), max_eq_left below.le]
  · rw [min_eq_left above.le, max_eq_right ordered]
  · rw [min_eq_right (not_lt.mp above), max_eq_right (not_lt.mp below)]

/-- A fraction is moved into a window by a minimum and a maximum. -/
theorem clamp_rat {low high : ℚ} (ordered : low ≤ high) (x : ℚ) :
    clamp low high x = max low (min high x) :=
  window_eq ordered x

end Scalar

namespace Relevance.Overlap

/-- What is taken off for extra words. -/
def penalty (overlap : Overlap) : Nat :=
  min (2 * overlap.extra) 10

/-- Relevance before it is moved into its window. -/
def rawRelevance (overlap : Overlap) : ℚ :=
  overlap.found / overlap.asked * 15 + (if overlap.beginsAlike then 5 else 0) - overlap.penalty

/-- The overlap with one more extra word. -/
def withExtraWord (overlap : Overlap) : Overlap :=
  { overlap with extra := overlap.extra + 1 }

variable {overlap : Overlap}

/-- The relevance is the raw relevance, moved into the window from 0 to 20. -/
theorem relevance_rat (asked : overlap.asked ≠ 0) :
    (overlap.relevance : ℚ) = max 0 (min 20 overlap.rawRelevance) := by
  have window : (0 : ℚ) ≤ 20 := by norm_num
  rw [relevance, if_neg asked, ← Scalar.clamp_rat window, rawRelevance, penalty, Scalar.ratio]
  simp only [Scalar.ofNat_rat]
  cases overlap.beginsAlike <;> norm_num

/-- Relevance is full if all words are found, the beginnings are alike, and no word is extra. -/
theorem relevance_eq_twenty_iff (asked : overlap.asked ≠ 0)
    (found : overlap.found ≤ overlap.asked) :
    (overlap.relevance : ℚ) = 20 ↔
      overlap.found = overlap.asked ∧ overlap.beginsAlike = true ∧ overlap.extra = 0 := by
  have positive : (0 : ℚ) < overlap.asked := Nat.cast_pos.mpr (Nat.pos_of_ne_zero asked)
  rw [relevance_rat asked]
  constructor
  · intro full
    have highest : 20 ≤ overlap.rawRelevance := by
      have reached : 20 ≤ max 0 (min 20 overlap.rawRelevance) := full.ge
      rcases le_max_iff.mp reached with impossible | reached
      · norm_num at impossible
      · exact (le_min_iff.mp reached).2
    have share : (overlap.found : ℚ) / overlap.asked ≤ 1 := by
      rw [div_le_one positive]
      exact_mod_cast found
    have kept : (0 : ℚ) ≤ overlap.penalty := Nat.cast_nonneg _
    rw [rawRelevance] at highest
    have alike : overlap.beginsAlike = true := by
      by_contra different
      rw [if_neg different] at highest
      linarith
    rw [if_pos alike] at highest
    have whole : (overlap.found : ℚ) / overlap.asked = 1 := by linarith
    have free : (overlap.penalty : ℚ) = 0 := by linarith
    rw [div_eq_one_iff_eq positive.ne', Nat.cast_inj] at whole
    rw [Nat.cast_eq_zero, penalty] at free
    exact ⟨whole, alike, by omega⟩
  · rintro ⟨all, alike, none⟩
    rw [rawRelevance, penalty, all, div_self positive.ne', if_pos alike, none]
    norm_num

/-- One more extra word takes off two at most, and adds nothing. -/
theorem relevance_withExtraWord (overlap : Overlap) :
    (overlap.relevance : ℚ) - 2 ≤ overlap.withExtraWord.relevance ∧
      (overlap.withExtraWord.relevance : ℚ) ≤ overlap.relevance := by
  by_cases asked : overlap.asked = 0
  · have nothing : (overlap.relevance : ℚ) = 0 := if_pos asked
    have still : (overlap.withExtraWord.relevance : ℚ) = 0 := if_pos asked
    rw [nothing, still]
    norm_num
  · have more : overlap.penalty ≤ overlap.withExtraWord.penalty ∧
        overlap.withExtraWord.penalty ≤ overlap.penalty + 2 := by
      simp only [penalty, withExtraWord]
      omega
    have rest : overlap.withExtraWord.rawRelevance =
        overlap.rawRelevance + overlap.penalty - overlap.withExtraWord.penalty := by
      rw [rawRelevance, rawRelevance, sub_add_cancel]
      rfl
    have larger : (overlap.penalty : ℚ) ≤ overlap.withExtraWord.penalty := by exact_mod_cast more.1
    have bounded : (overlap.withExtraWord.penalty : ℚ) ≤ overlap.penalty + 2 := by
      exact_mod_cast more.2
    have below : overlap.withExtraWord.rawRelevance ≤ overlap.rawRelevance := by linarith
    have near : overlap.rawRelevance ≤ overlap.withExtraWord.rawRelevance + 2 := by linarith
    have after : (overlap.withExtraWord.relevance : ℚ) =
        max 0 (min 20 overlap.withExtraWord.rawRelevance) :=
      relevance_rat asked
    rw [relevance_rat asked, after]
    constructor
    · rw [sub_le_iff_le_add]
      apply max_le
      · exact add_nonneg (le_max_left 0 _) (by norm_num)
      · calc min 20 overlap.rawRelevance
            ≤ min (20 + 2) (overlap.withExtraWord.rawRelevance + 2) := min_le_min (by norm_num) near
          _ = min 20 overlap.withExtraWord.rawRelevance + 2 := min_add_add_right 20 _ 2
          _ ≤ max 0 (min 20 overlap.withExtraWord.rawRelevance) + 2 := by
            gcongr; exact le_max_right 0 _
    · exact max_le_max_left 0 (min_le_min_left 20 below)

/-- From five extra words on, more of them change nothing. -/
theorem relevance_withExtraWord_of_five_le {α : Type} [Scalar α] (five : 5 ≤ overlap.extra) :
    (overlap.withExtraWord.relevance : α) = overlap.relevance := by
  have capped : min (2 * overlap.withExtraWord.extra) 10 = min (2 * overlap.extra) 10 := by
    simp only [withExtraWord]
    omega
  rw [relevance, relevance, capped]
  rfl

end Relevance.Overlap

end ReleaseFinder
