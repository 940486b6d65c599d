import ReleaseFinder.Proofs.JoinedWords
import ReleaseFinder.Quality.Rules

/-!
# Labels as words of a title

The tables of rules name what a release promises, and a list of release tokens names the words of a
title that say nothing about its content. The two are kept apart from each other. Words of a title
that are neither asked for nor tokens are extra words, and relevance is taken off for them; a label
put behind a title adds its own words to that count, since a blank keeps the words of title and
label apart.

Split into words, all labels but three consist of tokens. `H.264` and `H.265` fall into two words at
the point, and `DD+` keeps its sign; none of these words is a token. They count as extra words
unless the query has them.
-/

namespace ReleaseFinder

namespace Quality

/-- The rules of all five tables. -/
def labelRules : List Rule :=
  resolutionRules ++ sourceRules ++ codecRules ++ audioRules ++ hdrRules

end Quality

namespace Relevance

open Quality

/-- The number of words of a title for which relevance is taken off. Nothing is taken off where
nothing is asked for. -/
def penalisedWords (title query : String) : Nat :=
  if words query = [] then 0 else (Overlap.ofWords (words title) (words query)).extra

/-- The words of a label that are not release tokens. -/
def strayWords : String → List String
  | "H.264" => ["h", "264"]
  | "H.265" => ["h", "265"]
  | "DD+" => ["dd+"]
  | _ => []

/-- Words put behind a title are extra words or not, whatever the title is. -/
theorem extra_append_blank (title label : String) (query : List Word) :
    (Overlap.ofWords (words (title ++ " " ++ label)) query).extra =
      (Overlap.ofWords (words title) query).extra +
        (Overlap.ofWords (words label) query).extra := by
  rw [Overlap.ofWords, Overlap.ofWords, Overlap.ofWords, words_append_blank, List.countP_append]

/-- The words of the labels that are not release tokens are the stray ones. -/
theorem words_of_label {rule : Rule} (inTable : rule ∈ labelRules) :
    (words rule.label).filter (fun word => !isReleaseToken word) =
      (strayWords rule.label).map String.toList := by
  have checked : ∀ rule ∈ labelRules, (words rule.label).filter (fun word => !isReleaseToken word) =
      (strayWords rule.label).map String.toList := by
    decide +kernel
  exact checked rule inTable

/-- The extra words of a label are the stray ones that are not asked for. -/
theorem extra_label {rule : Rule} (inTable : rule ∈ labelRules) (query : List Word) :
    (Overlap.ofWords (words rule.label) query).extra =
      (strayWords rule.label).countP fun word => !query.contains word.toList := by
  rw [Overlap.ofWords, ← List.countP_filter, words_of_label inTable, List.countP_map]
  rfl

/-- A label put behind a title adds those of its stray words to the extra words that are not asked
for. So it adds nothing exactly if nothing is asked for, or all of its stray words are; and only
three labels have any. -/
theorem label_adds_its_stray_words {rule : Rule} (inTable : rule ∈ labelRules)
    (title query : String) :
    (penalisedWords (title ++ " " ++ rule.label) query =
        penalisedWords title query +
          if words query = [] then 0
          else (strayWords rule.label).countP fun word => !(words query).contains word.toList) ∧
      (penalisedWords (title ++ " " ++ rule.label) query ≤ penalisedWords title query ↔
        words query = [] ∨ ∀ word ∈ strayWords rule.label, word.toList ∈ words query) ∧
      (rule.label ∉ ["H.264", "H.265", "DD+"] →
        penalisedWords (title ++ " " ++ rule.label) query = penalisedWords title query) := by
  have added : penalisedWords (title ++ " " ++ rule.label) query =
      penalisedWords title query +
        if words query = [] then 0
        else (strayWords rule.label).countP fun word => !(words query).contains word.toList := by
    by_cases asked : words query = []
    · rw [penalisedWords, penalisedWords, if_pos asked, if_pos asked, if_pos asked]
    · rw [penalisedWords, penalisedWords, if_neg asked, if_neg asked, if_neg asked,
        extra_append_blank, extra_label inTable]
  refine ⟨added, ?raised, ?others⟩
  case raised =>
    have noneAdded (count total : Nat) : total + count ≤ total ↔ count = 0 := by
      omega
    rw [added, noneAdded, ite_eq_left_iff, List.countP_eq_zero, ← or_iff_not_imp_left]
    simp
  case others =>
    intro other
    have tokens : strayWords rule.label = [] := by
      rw [strayWords.eq_def]
      split <;> simp_all
    rw [added, tokens, List.countP_nil, ite_self, Nat.add_zero]

/-- `WEB-DL` falls into two words, and both are tokens. -/
theorem web_label_is_not_penalised :
    ∃ rule ∈ labelRules, rule.label = "WEB-DL" ∧ rule.label ∉ ["H.264", "H.265", "DD+"] ∧
      penalisedWords ("Movie 2" ++ " " ++ rule.label) "movie" = penalisedWords "Movie 2" "movie" ∧
      penalisedWords "Movie 2" "movie" = 1 := by
  obtain ⟨rule, inTable, named⟩ : ∃ rule ∈ labelRules, rule.label = "WEB-DL" := by
    decide +kernel
  have other : rule.label ∉ ["H.264", "H.265", "DD+"] := by
    rw [named]
    decide
  have kept := (label_adds_its_stray_words inTable "Movie 2" "movie").2.2 other
  exact ⟨rule, inTable, named, other, kept, by decide +kernel⟩

/-- `H.265` is a label, and adds two extra words to a title that has none. Four points of twenty
go. -/
theorem encode_label_is_penalised :
    (∃ rule ∈ labelRules, rule.label = "H.265" ∧
        penalisedWords "Movie" "movie" < penalisedWords ("Movie" ++ " " ++ rule.label) "movie") ∧
      (ofTitle "Movie" "movie" : Float) = 20 ∧ (ofTitle "Movie H.265" "movie" : Float) = 16 := by
  refine ⟨?_, ?_, ?_⟩ <;> decide +kernel

end Relevance

end ReleaseFinder
