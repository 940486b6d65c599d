import ReleaseFinder.Proofs.FullRelevance
import ReleaseFinder.Proofs.WordSplits

/-!
# A word put behind a title

A word of some text is a text of one word, since it is in lower case already. Put behind a title,
with a blank between, it is one more word of the title. If it has nothing to do with the query, no
word of the query is found that was not found before; nor does a title without a significant word
begin like the query now, because the new word is none of the query's. So all that can change is the
number of extra words, and it does unless the word is a release token.
-/

namespace ReleaseFinder.Relevance

open Text

/-! ## Words that are not asked for -/

/-- The word is not equal to, a beginning of or an extension of any word of the query. -/
def Noise (word : Word) (query : List Word) : Prop :=
  ∀ asked ∈ query, ¬ asked <+: word ∧ ¬ word <+: asked

instance (word : Word) (query : List Word) : Decidable (Noise word query) :=
  inferInstanceAs (Decidable (∀ asked ∈ query, ¬ asked <+: word ∧ ¬ word <+: asked))

namespace Noise

variable {word : Word} {query : List Word}

/-- Noise is no word of the query. -/
theorem not_mem (noise : Noise word query) : word ∉ query :=
  fun member => (noise word member).1 List.prefix_rfl

/-- No word of the query agrees with it. -/
theorem agree_eq_false (noise : Noise word query) {asked : Word} (member : asked ∈ query) :
    agree word asked = false := by
  rw [← Bool.not_eq_true, agree_iff, not_or]
  exact noise asked member

/-- Such a word behind a title does not make it begin like the query. -/
theorem beginAlike_append (noise : Noise word query) (title : List Word) :
    beginAlike query (title ++ [word]) = beginAlike query title := by
  rw [Bool.eq_iff_iff, beginAlike_iff, beginAlike_iff]
  refine exists_congr fun asked => and_congr_right fun first =>
    ⟨?_, fun named => named.append [word]⟩
  intro named
  -- The significant word of the title may only come up now, but then it is the new word, which is
  -- not asked for.
  rw [← firstSignificant?_eq_some_iff] at first named ⊢
  rw [firstSignificant?, List.find?_append, Option.or_eq_some_iff] at named
  rcases named with named | ⟨-, added⟩
  · exact named
  · have isWord : asked = word := List.mem_singleton.mp (List.mem_of_find?_eq_some added)
    exact absurd (isWord ▸ List.mem_of_find?_eq_some first) noise.not_mem

/-- Such a word behind a title finds no word of the query. -/
theorem found_append (noise : Noise word query) (title : List Word) :
    (Overlap.ofWords (title ++ [word]) query).found = (Overlap.ofWords title query).found := by
  apply List.countP_congr
  intro asked member
  simp only [List.any_append, List.any_cons, List.any_nil, noise.agree_eq_false member,
    Bool.or_false]

/-- Such a word behind a title is extra, unless it is a release token. -/
theorem extra_append (noise : Noise word query) (title : List Word) :
    (Overlap.ofWords (title ++ [word]) query).extra =
      (Overlap.ofWords title query).extra + if isReleaseToken word then 0 else 1 := by
  have notAsked : query.contains word = false := by
    rw [← Bool.not_eq_true, List.contains_iff_mem]
    exact noise.not_mem
  simp only [Overlap.ofWords, List.countP_append, List.countP_singleton, notAsked]
  cases isReleaseToken word <;> rfl

/-- Such a word behind a title changes the number of extra words at most. -/
theorem ofWords_append (noise : Noise word query) (title : List Word) :
    Overlap.ofWords (title ++ [word]) query =
      if isReleaseToken word then Overlap.ofWords title query
      else (Overlap.ofWords title query).withExtraWord := by
  have found := noise.found_append title
  have alike : (Overlap.ofWords (title ++ [word]) query).beginsAlike =
      (Overlap.ofWords title query).beginsAlike := noise.beginAlike_append title
  have extra := noise.extra_append title
  have asked : (Overlap.ofWords (title ++ [word]) query).asked =
    (Overlap.ofWords title query).asked := rfl
  generalize Overlap.ofWords (title ++ [word]) query = after at *
  generalize Overlap.ofWords title query = before at *
  obtain ⟨_, _, _, _⟩ := after
  subst found alike extra asked
  cases isReleaseToken word <;> rfl

end Noise

/-- A word of some text that has nothing to do with the query never helps a title that it is put
behind. If it is a release token, nothing changes. Otherwise there is one extra word more, and
nothing else; so in exact numbers the relevance falls by two at most, and from five extra words on
it stays in any numbers. -/
theorem noise_never_helps {word query : String} (isWord : ∃ text, word.toList ∈ words text)
    (noise : Noise word.toList (words query)) (title : String) :
    (ReleaseToken word.toList →
        Overlap.ofWords (words (title ++ " " ++ word)) (words query) =
            Overlap.ofWords (words title) (words query) ∧
          ∀ {α : Type} [Scalar α], (ofTitle (title ++ " " ++ word) query : α) =
            ofTitle title query) ∧
      (¬ ReleaseToken word.toList →
        Overlap.ofWords (words (title ++ " " ++ word)) (words query) =
          (Overlap.ofWords (words title) (words query)).withExtraWord) ∧
      (5 ≤ (Overlap.ofWords (words title) (words query)).extra →
        ∀ {α : Type} [Scalar α], (ofTitle (title ++ " " ++ word) query : α) = ofTitle title query) ∧
      (ofTitle title query : ℚ) - 2 ≤ ofTitle (title ++ " " ++ word) query ∧
      (ofTitle (title ++ " " ++ word) query : ℚ) ≤ ofTitle title query := by
  obtain ⟨text, isWord⟩ := isWord
  have joined : words (title ++ " " ++ word) = words title ++ [word.toList] := by
    rw [words_append_blank, words_of_mem_words isWord]
  have overlap := noise.ofWords_append (words title)
  rw [← joined] at overlap
  rw [← isReleaseToken_iff]
  by_cases token : isReleaseToken word.toList = true
  · rw [if_pos token] at overlap
    have same {α : Type} [Scalar α] : (ofTitle (title ++ " " ++ word) query : α) =
        ofTitle title query := by
      rw [ofTitle, ofTitle, overlap]
    refine ⟨fun _ => ⟨overlap, same⟩, fun other => absurd token other,
      fun _ _ _ => same, ?_, same.le⟩
    rw [same]
    exact sub_le_self _ (by norm_num)
  · rw [if_neg token] at overlap
    refine ⟨fun isToken => absurd isToken token, fun _ => overlap, ?five, ?falls⟩
    case five =>
      intro five α _
      rw [ofTitle, ofTitle, overlap, Overlap.relevance_withExtraWord_of_five_le five]
    case falls =>
      rw [ofTitle, ofTitle, overlap]
      exact Overlap.relevance_withExtraWord _

/-- The name of a group is one more extra word of a title, and a year is none. -/
theorem group_is_extra_and_year_is_not :
    (∃ text, "group".toList ∈ words text) ∧ Noise "group".toList (words "movie") ∧
      ¬ ReleaseToken "group".toList ∧
      (Overlap.ofWords (words ("Movie 2" ++ " " ++ "group")) (words "movie")).extra = 2 ∧
      (∃ text, "1999".toList ∈ words text) ∧ Noise "1999".toList (words "movie") ∧
      ReleaseToken "1999".toList ∧
      (ofTitle ("Movie 2" ++ " " ++ "1999") "movie" : ℚ) = ofTitle "Movie 2" "movie" := by
  have group : ∃ text, "group".toList ∈ words text := ⟨"Movie.2-GROUP", by decide +kernel⟩
  have year : ∃ text, "1999".toList ∈ words text := ⟨"Movie.1999", by decide +kernel⟩
  have groupNoise : Noise "group".toList (words "movie") := by decide +kernel
  have yearNoise : Noise "1999".toList (words "movie") := by decide +kernel
  have notToken : ¬ ReleaseToken "group".toList := by
    rw [← isReleaseToken_iff]
    decide +kernel
  have token : ReleaseToken "1999".toList := by
    rw [← isReleaseToken_iff]
    decide +kernel
  have extra := (noise_never_helps group groupNoise "Movie 2").2.1 notToken
  have before : (Overlap.ofWords (words "Movie 2") (words "movie")).extra = 1 := by decide +kernel
  refine ⟨group, groupNoise, notToken, ?_, year, yearNoise, token, ?_⟩
  · rw [extra, Overlap.withExtraWord, before]
  · exact ((noise_never_helps year yearNoise "Movie 2").1 token).2

end ReleaseFinder.Relevance
