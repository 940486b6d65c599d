import ReleaseFinder.Proofs.RankingOrder

/-!
# Rankings of parts

A release is checked, scored and placed on its own. Ranking two lists together is therefore the same
as ranking each and merging, where the first list goes first between equals, and the best release of
many lists can be found among the best of each. For the same reason a ranking that is ranked again
stays as it is: all of its releases are acceptable, and they are in order already.
-/

namespace ReleaseFinder.Options

open Sorting

/-- The best releases of several lists, in the order of the lists. A list without an acceptable
release has none. -/
def winners (options : Options) (parts : List (List Release)) : List Release :=
  parts.filterMap fun part => (options.best? part).map Ranked.release

/-- What survives of two lists survives of each. -/
theorem survivors_append (options : Options) (first second : List Release) :
    options.survivors (first ++ second) = options.survivors first ++ options.survivors second := by
  simp [survivors]

/-- Ranked releases survive as they are: no check rejects them, and their scores are their own. -/
theorem survivors_map_release (options : Options) (releases : List Release) (entries : List Ranked)
    (ranked : ∀ entry ∈ entries, entry ∈ options.rank releases) :
    options.survivors (entries.map Ranked.release) = entries := by
  induction entries with
  | nil => rfl
  | cons entry rest inductionHypothesis =>
    obtain ⟨_, accepted, own⟩ := (mem_rank_iff options releases entry).mp (ranked entry (by simp))
    have remaining := inductionHypothesis fun other member =>
      ranked other (List.mem_cons_of_mem entry member)
    rw [List.map_cons, ← List.singleton_append, survivors_append, remaining]
    have front : options.survivors [entry.release] = [entry] := by
      simp only [survivors, List.filter_cons, accepted, decide_true, if_true, List.filter_nil,
        List.map_cons, List.map_nil]
      exact congrArg (fun first => [first]) own.symm
    rw [front, List.singleton_append]

/-- The ranking of one list after another merges their rankings. -/
theorem rank_append (options : Options) (first second : List Release) :
    options.rank (first ++ second) =
      (options.rank first).merge (options.rank second) options.notAfter := by
  have merged := (compares_orderKey options).stableSort_merge (stableSort_rank options first)
    (stableSort_rank options second)
  rw [← survivors_append] at merged
  exact merged.unique (stableSort_rank options (first ++ second))

/-- Releases of one ranking that are in its order are their own ranking. -/
theorem rank_map_release (options : Options) (releases : List Release) (entries : List Ranked)
    (ranked : ∀ entry ∈ entries, entry ∈ options.rank releases)
    (ordered : Ordered options.orderKey entries) :
    options.rank (entries.map Ranked.release) = entries := by
  have again := stableSort_rank options (entries.map Ranked.release)
  rw [survivors_map_release options releases entries ranked] at again
  exact (StableSort.of_ordered ordered).unique again

/-- The best of one list after another is the better one of their best, the first one's between
equals. -/
theorem best?_append (options : Options) (first second : List Release) :
    options.best? (first ++ second) =
      ((options.best? first).toList.merge
        (options.best? second).toList options.notAfter).head? := by
  unfold best?
  rw [rank_append, head?_merge]

/-- The best release is the best of a list of its own. -/
theorem best?_winner (options : Options) (releases : List Release) :
    options.best? ((options.best? releases).toList.map Ranked.release) =
      options.best? releases := by
  cases found : options.best? releases with
  | none => simp [best?, rank, acceptable]
  | some entry =>
    have member : entry ∈ options.rank releases := List.mem_of_head? found
    have alone : options.rank ([entry].map Ranked.release) = [entry] :=
      rank_map_release options releases [entry] (by simpa using member) (List.pairwise_singleton ..)
    unfold best?
    rw [Option.toList_some, alone, List.head?_cons]

/-- The best release of several lists, one after another, is the best among their best. The first
list contributes its best release to both sides, and the induction provides the others. -/
theorem best?_flatten (options : Options) (parts : List (List Release)) :
    options.best? parts.flatten = options.best? (options.winners parts) := by
  induction parts with
  | nil => rfl
  | cons part rest inductionHypothesis =>
    have front : options.winners (part :: rest) =
        (options.best? part).toList.map Ranked.release ++ options.winners rest := by
      cases found : options.best? part <;> simp [winners, found]
    rw [List.flatten_cons, front, best?_append, best?_append, best?_winner, inductionHypothesis]

/-- Ranking respects parts. The ranking of two lists is the merge of their rankings, ties going to
the first; the best release of both, and of any number of lists, is the best of the lists' best
releases in their order; and ranking a ranking again changes nothing. -/
theorem rank_of_parts (options : Options) (first second : List Release) :
    options.rank (first ++ second) =
        (options.rank first).merge (options.rank second) options.notAfter ∧
      options.best? (first ++ second) =
        options.best? (((options.best? first).toList ++ (options.best? second).toList).map
          Ranked.release) ∧
      (∀ parts : List (List Release),
        options.best? parts.flatten = options.best? (options.winners parts)) ∧
      options.rank ((options.rank first).map Ranked.release) = options.rank first := by
  refine ⟨rank_append options first second, ?_, best?_flatten options, ?_⟩
  · rw [List.map_append, best?_append, best?_append, best?_winner, best?_winner]
  · exact rank_map_release options first (options.rank first) (fun _ member => member)
      (stableSort_rank options first).ordered

end ReleaseFinder.Options
