import Mathlib
import ReleaseFinder.Text.Blank
import ReleaseFinder.Text.LowerCase

/-!
# The case of ASCII letters

Two texts are recased if they are equal but for the case of ASCII letters. Lower-casing follows
Unicode and looks at the neighbours of a capital sigma, but an ASCII letter is a letter to it in
either case, so it gives one answer for recased texts. Trimming does not see letters at all.
-/

namespace ReleaseFinder.Text

/-- Equal characters, or the two cases of one ASCII letter, which lie 32 code points apart. -/
inductive SameLetter : Char → Char → Prop where
  | same (c : Char) : SameLetter c c
  | lowered {c d : Char} (capital : 65 ≤ c.toNat ∧ c.toNat ≤ 90) (image : d.toNat = c.toNat + 32) :
      SameLetter c d
  | raised {c d : Char} (capital : 65 ≤ d.toNat ∧ d.toNat ≤ 90) (image : c.toNat = d.toNat + 32) :
      SameLetter c d

/-- Texts that differ at most in the case of ASCII letters. -/
def Recased (first second : List Char) : Prop :=
  List.Forall₂ SameLetter first second

/-- Lower case adds 32 to the code points of the capitals from `A` to `Z`. -/
theorem toNat_asciiLowerChar (c : Char) :
    (asciiLowerChar c).toNat = if 65 ≤ c.toNat ∧ c.toNat ≤ 90 then c.toNat + 32 else c.toNat := by
  have capital : ('A' ≤ c ∧ c ≤ 'Z') ↔ 65 ≤ c.toNat ∧ c.toNat ≤ 90 := Iff.rfl
  rw [asciiLowerChar]
  by_cases upper : 65 ≤ c.toNat ∧ c.toNat ≤ 90
  · rw [if_pos (capital.mpr upper), if_pos upper]
    have small : (c.toNat + 32).isValidChar := Or.inl (by omega)
    rw [Char.ofNat, dif_pos small]
    rfl
  · rw [if_neg (mt capital.mp upper), if_neg upper]

/-- Two characters are the same letter if they have the same lower case as ASCII letters. -/
theorem sameLetter_iff (c d : Char) : SameLetter c d ↔ asciiLowerChar c = asciiLowerChar d := by
  have lower : asciiLowerChar c = asciiLowerChar d ↔
      (asciiLowerChar c).toNat = (asciiLowerChar d).toNat := Char.toNat_inj.symm
  rw [lower, toNat_asciiLowerChar, toNat_asciiLowerChar]
  constructor
  · intro letter
    cases letter with
    | same => rfl
    | lowered capital image => split_ifs <;> omega
    | raised capital image => split_ifs <;> omega
  · intro equal
    split_ifs at equal with first second
    · have same : c = d := Char.toNat_inj.mp (by omega)
      exact same ▸ .same c
    · exact .lowered first (by omega)
    · next second => exact .raised second (by omega)
    · have same : c = d := Char.toNat_inj.mp equal
      exact same ▸ .same c

namespace SameLetter

variable {c d : Char}

/-- A function that agrees on both cases of each letter agrees on the same letters. -/
theorem apply_eq {β : Type} (letter : SameLetter c d) (f : Char → β)
    (agree : ∀ offset < 26, f (Char.ofNat (65 + offset)) = f (Char.ofNat (97 + offset))) :
    f c = f d := by
  have both {upper lower : Char} (capital : 65 ≤ upper.toNat ∧ upper.toNat ≤ 90)
      (image : lower.toNat = upper.toNat + 32) : f upper = f lower := by
    have equal := agree (upper.toNat - 65) (by omega)
    rwa [show 65 + (upper.toNat - 65) = upper.toNat by omega,
      show 97 + (upper.toNat - 65) = lower.toNat by omega, Char.ofNat_toNat,
      Char.ofNat_toNat] at equal
  cases letter with
  | same => rfl
  | lowered capital image => exact both capital image
  | raised capital image => exact (both capital image).symm

/-- Both cases of a letter are cased alike. -/
theorem isCased_eq (letter : SameLetter c d) : isCased c = isCased d :=
  letter.apply_eq isCased (by decide)

/-- Both cases of a letter are ignored alike beside a sigma. -/
theorem isIgnorable_eq (letter : SameLetter c d) : isIgnorable c = isIgnorable d := by
  have apart : ∀ range ∈ ignorableRanges,
      range.2 < 65 ∨ 90 < range.1 ∧ range.2 < 97 ∨ 122 < range.1 := by
    decide +kernel
  have counted {point : Nat} (isLetter : 65 ≤ point ∧ point ≤ 90 ∨ 97 ≤ point ∧ point ≤ 122) :
      inRanges ignorableRanges point = false := by
    rw [inRanges, List.any_eq_false]
    intro range member
    have away := apart range member
    simp only [Bool.and_eq_true, decide_eq_true_eq]
    omega
  cases letter with
  | same => rfl
  | lowered capital image => rw [isIgnorable, isIgnorable, counted (by omega), counted (by omega)]
  | raised capital image => rw [isIgnorable, isIgnorable, counted (by omega), counted (by omega)]

/-- Both cases of a letter are blank alike. -/
theorem isBlank_eq (letter : SameLetter c d) : isBlank c = isBlank d :=
  letter.apply_eq isBlank (by decide)

/-- Both cases of a letter have one lower case. -/
theorem lowerChar_eq (letter : SameLetter c d) : lowerChar c = lowerChar d :=
  letter.apply_eq lowerChar (by decide +kernel)

end SameLetter

namespace Recased

variable {first second : List Char}

/-- A text differs from itself in nothing. -/
theorem refl (text : List Char) : Recased text text :=
  List.forall₂_same.mpr fun c _ => .same c

/-- Texts are recased if they have the same lower case as texts of ASCII letters. -/
theorem iff_map (first second : List Char) :
    Recased first second ↔ first.map asciiLowerChar = second.map asciiLowerChar := by
  have letters : SameLetter = fun c d => asciiLowerChar c = asciiLowerChar d := by
    funext c d
    exact propext (sameLetter_iff c d)
  rw [Recased, letters, ← List.forall₂_eq_eq_eq, List.forall₂_map_left_iff,
    List.forall₂_map_right_iff]

/-- The order of the two texts does not matter. -/
theorem symm (recased : Recased first second) : Recased second first := by
  rw [iff_map] at recased ⊢
  exact recased.symm

/-- Texts joined from recased parts are recased. -/
theorem append {left right : List Char} (recased : Recased first second)
    (after : Recased left right) : Recased (first ++ left) (second ++ right) :=
  List.rel_append recased after

/-- The recased forms of a text in two parts are those of the first before those of the second. -/
theorem append_iff {text : List Char} :
    Recased (first ++ second) text ↔
      ∃ front rest, text = front ++ rest ∧ Recased first front ∧ Recased second rest := by
  constructor
  · intro recased
    refine ⟨text.take first.length, text.drop first.length, ?_, ?_, ?_⟩
    · rw [List.take_append_drop]
    · exact (List.forall₂_take_append _ _ _ recased.flip).flip
    · exact (List.forall₂_drop_append _ _ _ recased.flip).flip
  · rintro ⟨front, rest, rfl, frontRecased, restRecased⟩
    exact frontRecased.append restRecased

/-- The recased forms of one character are the characters of the same letter. -/
theorem singleton_iff {c : Char} {text : List Char} :
    Recased [c] text ↔ ∃ d, text = [d] ∧ SameLetter c d := by
  constructor
  · rintro (_ | ⟨letter, ⟨⟩⟩)
    exact ⟨_, rfl, letter⟩
  · rintro ⟨d, rfl, letter⟩
    exact .cons letter .nil

/-- What holds of a letter in both cases or in none holds of all characters of recased texts. -/
theorem forall_mem {property : Char → Prop}
    (carries : ∀ {c d}, SameLetter c d → property c → property d) (recased : Recased first second)
    (each : ∀ c ∈ first, property c) : ∀ d ∈ second, property d := by
  induction recased with
  | nil => exact each
  | cons letter rest inductionHypothesis =>
    obtain ⟨front, others⟩ := List.forall_mem_cons.mp each
    exact List.forall_mem_cons.mpr ⟨carries letter front, inductionHypothesis others⟩

/-- What is looked past in front of recased texts is the same, as long as it is told by the
letters. -/
theorem dropWhile {skips : Char → Bool} (same : ∀ {c d}, SameLetter c d → skips c = skips d)
    (recased : Recased first second) :
    Recased (first.dropWhile skips) (second.dropWhile skips) := by
  induction recased with
  | nil => exact .nil
  | cons letter rest inductionHypothesis =>
    rw [List.dropWhile_cons, List.dropWhile_cons, same letter]
    split
    · exact inductionHypothesis
    · exact .cons letter rest

/-- Recased texts are recased backwards. -/
theorem reverse (recased : Recased first second) : Recased first.reverse second.reverse :=
  List.rel_reverse recased

/-- Trimmed texts are recased if the texts are. -/
theorem trimChars (recased : Recased first second) : Recased (trimChars first) (trimChars second) :=
  ((recased.dropWhile SameLetter.isBlank_eq).reverse.dropWhile SameLetter.isBlank_eq).reverse

/-- Recased texts go on with a letter, or do not. -/
theorem meetsLetter_eq (recased : Recased first second) :
    meetsLetter first = meetsLetter second := by
  have onward := recased.dropWhile SameLetter.isIgnorable_eq
  rw [meetsLetter, meetsLetter]
  generalize first.dropWhile isIgnorable = left at onward
  generalize second.dropWhile isIgnorable = right at onward
  cases onward with
  | nil => rfl
  | cons letter rest => exact letter.isCased_eq

/-- The image of a character depends on it and its neighbours only up to the case of ASCII
letters. -/
theorem lowerInContext_eq {before others after rest : List Char} {c d : Char}
    (beforeRecased : Recased before others) (letter : SameLetter c d)
    (afterRecased : Recased after rest) :
    lowerInContext before c after = lowerInContext others d rest := by
  have sigma : decide (c = 'Σ') = decide (d = 'Σ') :=
    letter.apply_eq (fun c => decide (c = 'Σ')) (by decide)
  have dotted : decide (c = 'İ') = decide (d = 'İ') :=
    letter.apply_eq (fun c => decide (c = 'İ')) (by decide)
  rw [decide_eq_decide] at sigma dotted
  rw [lowerInContext, lowerInContext, endsWord, endsWord, letter.lowerChar_eq,
    beforeRecased.meetsLetter_eq, afterRecased.meetsLetter_eq]
  exact if_congr sigma rfl (if_congr dotted rfl rfl)

/-- Recased texts have one lower case after recased texts. -/
theorem lowerAfter_eq {before others : List Char} (beforeRecased : Recased before others)
    (recased : Recased first second) : lowerAfter before first = lowerAfter others second := by
  induction recased generalizing before others with
  | nil => rfl
  | cons letter rest inductionHypothesis =>
    rw [lowerAfter, lowerAfter, lowerInContext_eq beforeRecased letter rest,
      inductionHypothesis (.cons letter beforeRecased)]

/-- Recased texts have one lower case. -/
theorem lowerChars_eq (recased : Recased first second) : lowerChars first = lowerChars second :=
  lowerAfter_eq .nil recased

end Recased

/-- Texts have the same letters if one is the other recased. -/
theorem sameLetters_iff (first second : String) :
    sameLetters first second = true ↔ Recased first.toList second.toList := by
  rw [Recased.iff_map, sameLetters, asciiLower, asciiLower, beq_iff_eq, String.ofList_inj]

/-- A text has the same letters as a word without ASCII capitals if it is this word in small
letters. -/
theorem sameLetters_iff_of_small {text word : String} (small : asciiLower word = word) :
    sameLetters text word = true ↔ asciiLower text = word := by
  rw [sameLetters, small, beq_iff_eq]

end ReleaseFinder.Text
