import ReleaseFinder.Proofs.PatternReading
import ReleaseFinder.Relevance

/-!
# The forms of release tokens

A word of a title is passed over as a release token if it is listed, if it counts seasons and
episodes, or if it is a year. The latter two are recognised by a pattern and by arithmetic on
digits; here they are described by how they are written.
-/

namespace ReleaseFinder.Relevance

open Text Pattern

/-- The text has nothing but digits. -/
def Digits (text : List Char) : Prop :=
  ∀ c ∈ text, '0' ≤ c ∧ c ≤ '9'

/-- A season, which an episode may follow behind an `e`, or an episode alone: `s01`, `s01e02`,
`e02`. The number of the episode may be missing behind a season. -/
inductive EpisodeMarker : Word → Prop where
  | season {season : List Char} (numbered : season ≠ []) (digits : Digits season) :
      EpisodeMarker ('s' :: season)
  | seasonAndEpisode {season episode : List Char} (numbered : season ≠ []) (digits : Digits season)
      (episodeDigits : Digits episode) : EpisodeMarker ('s' :: (season ++ 'e' :: episode))
  | episode {episode : List Char} (numbered : episode ≠ []) (digits : Digits episode) :
      EpisodeMarker ('e' :: episode)

/-- A year from 1900 to 2100, as it is written. -/
def Year (word : Word) : Prop :=
  ∃ year : Nat, 1900 ≤ year ∧ year ≤ 2100 ∧ word = (toString year).toList

/-- A word that every release name may have: one of the list, a marker or a year. -/
def ReleaseToken (word : Word) : Prop :=
  word ∈ releaseTokens ∨ EpisodeMarker word ∨ Year word

/-! ## Markers -/

/-- A pattern covers a text if it describes all of it, with nothing around. -/
theorem coversAll_iff (pattern : Pattern) (text : List Char) :
    pattern.coversAll text = true ↔ pattern.Describes [] text [] := by
  simp only [coversAll, List.any_eq_true, mem_ends_iff, List.isEmpty_iff]
  constructor
  · rintro ⟨stop, matched, finished⟩
    obtain ⟨stretch, after, rfl, rfl, describes⟩ :=
      (matches_iff_describes pattern [] text stop).mp matched
    obtain rfl : after = [] := finished
    rwa [List.append_nil]
  · intro describes
    refine ⟨placeBetween text [], ?_, rfl⟩
    exact (matches_iff_describes pattern [] text _).mpr ⟨text, [], by simp, rfl, describes⟩

/-- Among small letters, a small letter of a pattern stands for itself alone. -/
theorem eq_of_sameLetter {option c : Char} (letter : SameLetter option c)
    (optionSmall : asciiLowerChar option = option) (small : asciiLowerChar c = c) : c = option := by
  have same := (sameLetter_iff option c).mp letter
  rw [optionSmall, small] at same
  exact same.symm

/-- Digits have no case. -/
theorem asciiLowerChar_digit {c : Char} (digit : '0' ≤ c ∧ c ≤ '9') : asciiLowerChar c = c := by
  have below : c.toNat ≤ 57 := digit.2
  rw [← Char.toNat_inj, toNat_asciiLowerChar, if_neg (by omega)]

/-- A text has nothing but digits if its first character is one and the rest has nothing else. -/
theorem digits_cons_iff {c : Char} {text : List Char} :
    Digits (c :: text) ↔ ('0' ≤ c ∧ c ≤ '9') ∧ Digits text :=
  List.forall_mem_cons

/-- The pattern of markers describes the words of the one form or the other. -/
theorem describes_episodeMarker_iff (before word after : List Char) :
    episodeMarker.Describes before word after ↔
      (∃ s first more episode, SameLetter 's' s ∧ Digits (first :: more) ∧ Digits episode ∧
        (word = s :: (first :: more ++ episode) ∨
          ∃ e, SameLetter 'e' e ∧ word = s :: (first :: more ++ e :: episode))) ∨
      ∃ e first more, SameLetter 'e' e ∧ Digits (first :: more) ∧ word = e :: first :: more := by
  have letterS : literal "s" = .one (.letter 's') := rfl
  have letterE : literal "e" = .one (.letter 'e') := rfl
  simp only [episodeMarker, anyOf, inOrder, letterS, letterE, Pattern.optional, Describes,
    CharClass.Includes, digits_cons_iff]
  constructor
  · rintro (⟨_, _, rfl, ⟨s, rfl, isS⟩, _, _, rfl, ⟨first, rfl, firstDigit⟩, more, _, rfl,
        moreDigits, _, episode, rfl, ⟨e, rfl, isE⟩ | rfl, episodeDigits⟩ |
      ⟨_, _, rfl, ⟨e, rfl, isE⟩, _, more, rfl, ⟨first, rfl, firstDigit⟩, moreDigits⟩)
    · exact Or.inl ⟨s, first, more, episode, isS, ⟨firstDigit, moreDigits⟩, episodeDigits,
        Or.inr ⟨e, isE, rfl⟩⟩
    · exact Or.inl
        ⟨s, first, more, episode, isS, ⟨firstDigit, moreDigits⟩, episodeDigits, Or.inl rfl⟩
    · exact Or.inr ⟨e, first, more, isE, ⟨firstDigit, moreDigits⟩, rfl⟩
  · rintro (⟨s, first, more, episode, isS, ⟨firstDigit, moreDigits⟩, episodeDigits,
      rfl | ⟨e, isE, rfl⟩⟩ | ⟨e, first, more, isE, ⟨firstDigit, moreDigits⟩, rfl⟩)
    · exact Or.inl ⟨[s], _, rfl, ⟨s, rfl, isS⟩, [first], _, rfl, ⟨first, rfl, firstDigit⟩, more, _,
        rfl, moreDigits, [], episode, rfl, Or.inr rfl, episodeDigits⟩
    · exact Or.inl ⟨[s], _, rfl, ⟨s, rfl, isS⟩, [first], _, rfl, ⟨first, rfl, firstDigit⟩, more, _,
        rfl, moreDigits, [e], episode, rfl, Or.inl ⟨e, rfl, isE⟩, episodeDigits⟩
    · exact Or.inr
        ⟨[e], _, rfl, ⟨e, rfl, isE⟩, [first], more, rfl, ⟨first, rfl, firstDigit⟩, moreDigits⟩

/-- Markers are in small letters. -/
theorem EpisodeMarker.small {word : Word} (marker : EpisodeMarker word) :
    ∀ c ∈ word, asciiLowerChar c = c := by
  have digitsSmall {text : List Char} (digits : Digits text) : ∀ c ∈ text, asciiLowerChar c = c :=
    fun c member => asciiLowerChar_digit (digits c member)
  cases marker with
  | season _ digits => exact List.forall_mem_cons.mpr ⟨by decide, digitsSmall digits⟩
  | seasonAndEpisode _ digits episodeDigits =>
    refine List.forall_mem_cons.mpr ⟨by decide, List.forall_mem_append.mpr ⟨digitsSmall digits, ?_⟩⟩
    exact List.forall_mem_cons.mpr ⟨by decide, digitsSmall episodeDigits⟩
  | episode _ digits => exact List.forall_mem_cons.mpr ⟨by decide, digitsSmall digits⟩

/-- The test for markers tells them. -/
theorem isEpisodeMarker_iff (word : Word) : isEpisodeMarker word = true ↔ EpisodeMarker word := by
  rw [isEpisodeMarker, Bool.and_eq_true, coversAll_iff, describes_episodeMarker_iff,
    List.all_eq_true]
  simp only [beq_iff_eq]
  constructor
  · rintro ⟨small, ⟨s, first, more, episode, isS, digits, episodeDigits, rfl | ⟨e, isE, rfl⟩⟩ |
      ⟨e, first, more, isE, digits, rfl⟩⟩
    · obtain rfl := eq_of_sameLetter isS (by decide) (small s (by simp))
      exact .season (List.cons_ne_nil first _) (List.forall_mem_append.mpr ⟨digits, episodeDigits⟩)
    · obtain rfl := eq_of_sameLetter isS (by decide) (small s (by simp))
      obtain rfl := eq_of_sameLetter isE (by decide) (small e (by simp))
      exact .seasonAndEpisode (List.cons_ne_nil first more) digits episodeDigits
    · obtain rfl := eq_of_sameLetter isE (by decide) (small e (by simp))
      exact .episode (List.cons_ne_nil first more) digits
  · intro marker
    refine ⟨marker.small, ?_⟩
    cases marker with
    | season numbered digits =>
      obtain ⟨first, more, rfl⟩ := List.exists_cons_of_ne_nil numbered
      refine Or.inl ⟨'s', first, more, [], .same 's', digits, by simp [Digits], Or.inl ?_⟩
      rw [List.append_nil]
    | seasonAndEpisode numbered digits episodeDigits =>
      obtain ⟨first, more, rfl⟩ := List.exists_cons_of_ne_nil numbered
      exact Or.inl
        ⟨'s', first, more, _, .same 's', digits, episodeDigits, Or.inr ⟨'e', .same 'e', rfl⟩⟩
    | episode numbered digits =>
      obtain ⟨first, more, rfl⟩ := List.exists_cons_of_ne_nil numbered
      exact Or.inr ⟨'e', first, more, .same 'e', digits, rfl⟩

/-! ## Years -/

/-- The number that digits stand for behind those that stand for `front`. -/
def numberBehind (front : Nat) (digits : List Char) : Nat :=
  digits.foldl (fun value c => value * 10 + (c.toNat - '0'.toNat)) front

/-- A year has four digits and lies between 1900 and 2100. -/
theorem isYear_eq (word : Word) :
    isYear word = true ↔ word.length = 4 ∧ Digits word ∧
      1900 ≤ numberBehind 0 word ∧ numberBehind 0 word ≤ 2100 := by
  simp [isYear, numberBehind, Digits, isDigit_iff, and_assoc]

/-- A digit is written by the number that it stands for. -/
theorem digitChar_of_digit {c : Char} (digit : '0' ≤ c ∧ c ≤ '9') :
    c.toNat - '0'.toNat < 10 ∧ Nat.toDigits 10 (c.toNat - '0'.toNat) = [c] := by
  have bounds : 48 ≤ c.toNat ∧ c.toNat ≤ 57 := digit
  have zero : '0'.toNat = 48 := rfl
  have below : c.toNat - '0'.toNat < 10 := by omega
  refine ⟨below, ?_⟩
  rw [Nat.toDigits_of_lt_base below, List.singleton_inj, ← Char.toNat_inj,
    Nat.toNat_digitChar_of_lt_ten below]
  omega

/-- Digits put behind those of a number are the digits of the number that they all stand for. -/
theorem toDigits_numberBehind {digits : List Char} (isDigits : Digits digits) {front : Nat}
    (pos : 0 < front) :
    Nat.toDigits 10 (numberBehind front digits) = Nat.toDigits 10 front ++ digits := by
  induction digits generalizing front with
  | nil => rw [List.append_nil, numberBehind, List.foldl_nil]
  | cons c digits inductionHypothesis =>
    obtain ⟨digit, others⟩ := digits_cons_iff.mp isDigits
    obtain ⟨below, alone⟩ := digitChar_of_digit digit
    have next : Nat.toDigits 10 (front * 10 + (c.toNat - '0'.toNat)) =
        Nat.toDigits 10 front ++ [c] := by
      rw [Nat.mul_comm, ← Nat.toDigits_append_toDigits (by decide) pos below, alone]
    rw [numberBehind, List.foldl_cons, ← numberBehind, inductionHypothesis others (by omega), next,
      List.append_assoc, List.singleton_append]

/-- A number grows by one place for each digit put behind it. -/
theorem numberBehind_lt {digits : List Char} (isDigits : Digits digits) (front : Nat) :
    numberBehind front digits < (front + 1) * 10 ^ digits.length := by
  induction digits generalizing front with
  | nil => simp [numberBehind]
  | cons c digits inductionHypothesis =>
    obtain ⟨digit, others⟩ := digits_cons_iff.mp isDigits
    have below := (digitChar_of_digit digit).1
    have step := inductionHypothesis others (front * 10 + (c.toNat - '0'.toNat))
    have room : front * 10 + (c.toNat - '0'.toNat) + 1 ≤ (front + 1) * 10 := by omega
    calc numberBehind front (c :: digits)
        < (front * 10 + (c.toNat - '0'.toNat) + 1) * 10 ^ digits.length := step
      _ ≤ (front + 1) * 10 * 10 ^ digits.length := Nat.mul_le_mul_right _ room
      _ = (front + 1) * 10 ^ (c :: digits).length := by rw [List.length_cons, Nat.pow_succ']; ring

/-- Four digits are a year if they are written as one, which does not begin with a zero. -/
theorem isYear_iff (word : Word) : isYear word = true ↔ Year word := by
  constructor
  · intro isYear
    obtain ⟨four, digits, early, late⟩ := (isYear_eq word).mp isYear
    refine ⟨numberBehind 0 word, early, late, ?_⟩
    obtain ⟨c, rest, rfl⟩ := List.exists_cons_of_length_eq_add_one four
    obtain ⟨digit, others⟩ := digits_cons_iff.mp digits
    have alone := (digitChar_of_digit digit).2
    have first : numberBehind 0 (c :: rest) = numberBehind (c.toNat - '0'.toNat) rest := by
      rw [numberBehind, List.foldl_cons, Nat.zero_mul, Nat.zero_add, ← numberBehind]
    -- A zero in front would leave a number of three digits, which is below 1900.
    have pos : 0 < c.toNat - '0'.toNat := by
      by_contra zero
      rw [Nat.not_lt, Nat.le_zero] at zero
      have short := numberBehind_lt others 0
      rw [first, zero] at early
      have three : rest.length = 3 := Nat.succ.inj four
      rw [three] at short
      omega
    rw [Nat.toString_eq_repr, Nat.toList_repr, first, toDigits_numberBehind others pos, alone,
      List.singleton_append]
  · have checked : ∀ offset < 201, isYear (toString (1900 + offset)).toList = true := by
      decide +kernel
    rintro ⟨year, early, late, rfl⟩
    have found := checked (year - 1900) (by omega)
    rwa [Nat.add_sub_cancel' early] at found

/-- The test for tokens tells them. -/
theorem isReleaseToken_iff (word : Word) : isReleaseToken word = true ↔ ReleaseToken word := by
  rw [isReleaseToken, Bool.or_eq_true, Bool.or_eq_true, isEpisodeMarker_iff, isYear_iff,
    ReleaseToken, List.contains_iff_mem, or_assoc]

end ReleaseFinder.Relevance
