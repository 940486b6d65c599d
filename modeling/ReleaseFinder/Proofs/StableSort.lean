import Mathlib

/-!
# Stable sorting by a key

A stable sort of a list by a key holds the list's members, in the order of their keys, and within
each level of equal keys in the order of the list. Nothing else is free: two stable sorts of one
list are equal. That makes every law about sorted lists a law about levels, and filtering,
relabelling and merging are shown to commute with sorting by looking at one level at a time.

The library's merge sort is connected to this account only through its comparison, which has to
agree with the order of the keys.
-/

namespace ReleaseFinder.Sorting

variable {α β κ : Type} [LinearOrder κ]

/-- The members of a list on one level of a key, in their order. -/
def level (key : α → κ) (value : κ) (members : List α) : List α :=
  members.filter fun member => decide (key member = value)

/-- The empty list has no member on any level. -/
@[simp] theorem level_nil (key : α → κ) (value : κ) : level key value [] = [] := rfl

/-- A level of joined lists is that of the first, followed by that of the second. -/
@[simp] theorem level_append (key : α → κ) (value : κ) (first second : List α) :
    level key value (first ++ second) = level key value first ++ level key value second :=
  List.filter_append ..

/-- A first member of the level stays in front. -/
theorem level_cons_same (key : α → κ) (member : α) (rest : List α) :
    level key (key member) (member :: rest) = member :: level key (key member) rest := by
  simp [level]

/-- A first member of another level is passed over. -/
theorem level_cons_other (key : α → κ) {value : κ} {member : α} (other : key member ≠ value)
    (rest : List α) : level key value (member :: rest) = level key value rest := by
  simp [level, other]

/-- The members of a level are those with its key. -/
@[simp] theorem mem_level (key : α → κ) (value : κ) (members : List α) (member : α) :
    member ∈ level key value members ↔ member ∈ members ∧ key member = value := by
  simp [level]

/-- Members in the order of their keys. -/
def Ordered (key : α → κ) (members : List α) : Prop :=
  members.Pairwise fun first second => key first ≤ key second

/-- The output is the input in the order of the keys, and members with equal keys keep the order of
the input. The levels fix how often and in which order each member appears. -/
structure StableSort (key : α → κ) (input output : List α) : Prop where
  perm : output.Perm input
  ordered : Ordered key output
  stable : ∀ value, level key value output = level key value input

/-- The first of two ordered lists with the same levels does not start later. Its first member lies
on some level, and therefore in the other list, whose members are no less than its first. -/
theorem head_le_of_levels (key : α → κ) {first second : α} {rest others : List α}
    (ordered : Ordered key (second :: others))
    (levels : ∀ value, level key value (first :: rest) = level key value (second :: others)) :
    key second ≤ key first := by
  have member : first ∈ level key (key first) (second :: others) := by
    rw [← levels]
    simp
  rcases List.mem_cons.mp ((mem_level ..).mp member).1 with same | later
  · exact le_of_eq (congrArg key same.symm)
  · exact List.rel_of_pairwise_cons ordered later

/-- Ordered lists with the same levels are equal. Both start on the lowest level, with that level's
first member; without it, the remaining lists still have the same levels. -/
theorem eq_of_levels (key : α → κ) (first second : List α) (firstOrdered : Ordered key first)
    (secondOrdered : Ordered key second)
    (levels : ∀ value, level key value first = level key value second) : first = second := by
  induction first generalizing second with
  | nil =>
    cases second with
    | nil => rfl
    | cons member rest =>
      have impossible := levels (key member)
      simp [level_cons_same] at impossible
  | cons member rest inductionHypothesis =>
    cases second with
    | nil =>
      have impossible := levels (key member)
      simp [level_cons_same] at impossible
    | cons other others =>
      have sameKey : key member = key other := le_antisymm
        (head_le_of_levels key firstOrdered fun value => (levels value).symm)
        (head_le_of_levels key secondOrdered levels)
      have front : member :: level key (key member) rest =
          other :: level key (key member) others := by
        have lowest := levels (key member)
        rwa [level_cons_same, sameKey, level_cons_same, ← sameKey] at lowest
      obtain ⟨rfl, _⟩ := List.cons.inj front
      have remaining : ∀ value, level key value rest = level key value others := by
        intro value
        by_cases onLevel : key member = value
        · subst onLevel
          exact (List.cons.inj front).2
        · simpa only [level_cons_other key onLevel] using levels value
      rw [inductionHypothesis others firstOrdered.tail secondOrdered.tail remaining]

/-- Of two different members of a list, one comes before the other. -/
theorem pair_sublist_of_mem {first second : α} {members : List α} (different : first ≠ second)
    (firstMember : first ∈ members) (secondMember : second ∈ members) :
    [first, second].Sublist members ∨ [second, first].Sublist members := by
  obtain ⟨before, after, rfl⟩ := List.append_of_mem firstMember
  rcases List.mem_append.mp secondMember with earlier | later
  · refine Or.inr ?_
    exact (List.singleton_sublist.mpr earlier).append (List.singleton_sublist.mpr (by simp))
  · rcases List.mem_cons.mp later with same | inside
    · exact absurd same.symm different
    · refine Or.inl ?_
      have tail : [first, second].Sublist (first :: after) :=
        (List.singleton_sublist.mpr inside).cons_cons first
      exact tail.trans (List.sublist_append_right before (first :: after))

/-- Both members of a pair that stands in a list are members of the list. -/
theorem mem_of_pair_sublist {first second : α} {members : List α}
    (kept : [first, second].Sublist members) : first ∈ members ∧ second ∈ members := by
  constructor
  · exact kept.subset (by simp)
  · exact kept.subset (by simp)

/-- In an ordered list, the earlier of two members has no greater key. -/
theorem Ordered.le_of_pair {key : α → κ} {members : List α} (ordered : Ordered key members)
    {first second : α} (kept : [first, second].Sublist members) : key first ≤ key second := by
  have pair : Ordered key [first, second] := List.Pairwise.sublist kept ordered
  simpa [Ordered] using pair

/-- In an ordered list, a member with a smaller key comes first. -/
theorem Ordered.pair_of_lt {key : α → κ} {members : List α} (ordered : Ordered key members)
    {first second : α} (below : key first < key second) (firstMember : first ∈ members)
    (secondMember : second ∈ members) : [first, second].Sublist members := by
  have different : first ≠ second := fun same => ne_of_lt below (congrArg key same)
  rcases pair_sublist_of_mem different firstMember secondMember with forward | backward
  · exact forward
  · exact absurd below (not_lt_of_ge (ordered.le_of_pair backward))

namespace StableSort

variable {key : α → κ} {input output : List α}

/-- A list has one stable sort. -/
theorem unique (sorted : StableSort key input output) {other : List α}
    (otherSorted : StableSort key input other) : other = output :=
  eq_of_levels key other output otherSorted.ordered sorted.ordered fun value =>
    (otherSorted.stable value).trans (sorted.stable value).symm

/-- An ordered list is its own stable sort. -/
theorem of_ordered (ordered : Ordered key input) : StableSort key input input :=
  ⟨List.Perm.refl input, ordered, fun _ => rfl⟩

/-- Dropping members from the sorted list sorts what is left of the list. -/
theorem filter (sorted : StableSort key input output) (keeps : α → Bool) :
    StableSort key (input.filter keeps) (output.filter keeps) where
  perm := sorted.perm.filter keeps
  ordered := List.Pairwise.filter keeps sorted.ordered
  stable := by
    intro value
    have commute (members : List α) :
        level key value (members.filter keeps) = (level key value members).filter keeps := by
      simp only [level, List.filter_filter, Bool.and_comm]
    rw [commute, commute, sorted.stable]

/-- A relabelling that keeps the keys of the list's members keeps the sort. -/
theorem map (sorted : StableSort key input output) (label : α → β) (labelKey : β → κ)
    (same : ∀ member ∈ input, labelKey (label member) = key member) :
    StableSort labelKey (input.map label) (output.map label) where
  perm := sorted.perm.map label
  ordered := by
    have related : output.Pairwise fun first second =>
        labelKey (label first) ≤ labelKey (label second) := by
      refine sorted.ordered.imp_of_mem ?_
      intro first second firstMember secondMember before
      rw [same first (sorted.perm.mem_iff.mp firstMember),
        same second (sorted.perm.mem_iff.mp secondMember)]
      exact before
    exact List.pairwise_map.mpr related
  stable := by
    intro value
    have labelled (members : List α) (within : ∀ member ∈ members, member ∈ input) :
        level labelKey value (members.map label) = (level key value members).map label := by
      unfold level
      rw [List.filter_map]
      congr 1
      refine List.filter_congr ?_
      intro member inside
      simp [same member (within member inside)]
    rw [labelled output fun member inside => sorted.perm.mem_iff.mp inside,
      labelled input fun _ inside => inside, sorted.stable]

/-- Members with equal keys come in the sorted list as they come in the list. -/
theorem pair_sublist_of_key_eq (sorted : StableSort key input output) {first second : α}
    (same : key first = key second) :
    [first, second].Sublist output ↔ [first, second].Sublist input := by
  have onLevel (members : List α) : [first, second].Sublist members ↔
      [first, second].Sublist (level key (key second) members) := by
    constructor
    · intro kept
      simpa [level, same] using kept.filter fun member => decide (key member = key second)
    · exact fun kept => kept.trans List.filter_sublist
  rw [onLevel output, sorted.stable, ← onLevel input]

/-- Which of two members comes first in the sorted list: the one with the smaller key, and of two
with equal keys the one that comes first in the list. -/
theorem pair_sublist_iff (sorted : StableSort key input output) (first second : α) :
    [first, second].Sublist output ↔
      [first, second].Sublist input ∧ key first ≤ key second ∨
        [second, first].Sublist input ∧ key first < key second := by
  have inOrder := sorted.ordered
  have found (member : α) : member ∈ output ↔ member ∈ input := sorted.perm.mem_iff
  constructor
  · intro kept
    have before : key first ≤ key second := inOrder.le_of_pair kept
    rcases eq_or_lt_of_le before with same | below
    · exact Or.inl ⟨(sorted.pair_sublist_of_key_eq same).mp kept, before⟩
    · have different : first ≠ second := fun same => ne_of_lt below (congrArg key same)
      obtain ⟨firstMember, secondMember⟩ := mem_of_pair_sublist kept
      rw [found] at firstMember secondMember
      rcases pair_sublist_of_mem different firstMember secondMember with forward | backward
      · exact Or.inl ⟨forward, before⟩
      · exact Or.inr ⟨backward, below⟩
  · rintro (⟨kept, before⟩ | ⟨kept, below⟩)
    · rcases eq_or_lt_of_le before with same | below
      · exact (sorted.pair_sublist_of_key_eq same).mpr kept
      · obtain ⟨firstMember, secondMember⟩ := mem_of_pair_sublist kept
        exact inOrder.pair_of_lt below ((found first).mpr firstMember)
          ((found second).mpr secondMember)
    · obtain ⟨secondMember, firstMember⟩ := mem_of_pair_sublist kept
      exact inOrder.pair_of_lt below ((found first).mpr firstMember)
        ((found second).mpr secondMember)

/-- A relation holds between all members of the sorted list, in its order, exactly when it holds
between all members of the list once every two of them are put in the order of their keys. -/
theorem pairwise_iff (sorted : StableSort key input output) (related : α → α → Prop) :
    output.Pairwise related ↔
      input.Pairwise fun first second =>
        (key first ≤ key second → related first second) ∧
          (key second < key first → related second first) := by
  simp only [List.pairwise_iff_forall_sublist, sorted.pair_sublist_iff]
  constructor
  · intro inOrder first second kept
    exact ⟨fun before => inOrder (Or.inl ⟨kept, before⟩),
      fun below => inOrder (Or.inr ⟨kept, below⟩)⟩
  · rintro inOrder first second (⟨kept, before⟩ | ⟨kept, below⟩)
    · exact (inOrder kept).1 before
    · exact (inOrder kept).2 below

/-- Members with different keys come in strictly increasing order. -/
theorem strictly_ordered (sorted : StableSort key input output) (distinct : (input.map key).Nodup) :
    output.Pairwise fun first second => key first < key second := by
  have apart : output.Pairwise fun first second => key first ≠ key second :=
    List.pairwise_map.mp ((sorted.perm.map key).nodup_iff.mpr distinct)
  exact (sorted.ordered.and apart).imp fun both => lt_of_le_of_ne both.1 both.2

/-- Members with different keys have one order, wherever they were found. -/
theorem eq_of_perm (sorted : StableSort key input output) (distinct : (input.map key).Nodup)
    {other otherOutput : List α} (otherSorted : StableSort key other otherOutput)
    (found : other.Perm input) : otherOutput = output := by
  have otherDistinct : (other.map key).Nodup := (found.map key).nodup_iff.mpr distinct
  refine List.Perm.eq_of_pairwise ?_ (otherSorted.strictly_ordered otherDistinct)
    (sorted.strictly_ordered distinct) ?_
  · intro first second _ _ before after
    exact absurd before (not_lt_of_gt after)
  · exact otherSorted.perm.trans (found.trans sorted.perm.symm)

end StableSort

/-- A comparison that says whether one key is at most the other. -/
def Compares (key : α → κ) (notAfter : α → α → Bool) : Prop :=
  ∀ first second, notAfter first second = true ↔ key first ≤ key second

namespace Compares

variable {key : α → κ} {notAfter : α → α → Bool}

/-- The comparison can be chained, as the keys can. -/
theorem trans (compares : Compares key notAfter) (first second third : α)
    (before : notAfter first second = true) (after : notAfter second third = true) :
    notAfter first third = true :=
  (compares ..).mpr (le_trans ((compares ..).mp before) ((compares ..).mp after))

/-- Of two members, one may come before the other. -/
theorem total (compares : Compares key notAfter) (first second : α) :
    (notAfter first second || notAfter second first) = true := by
  rw [Bool.or_eq_true, compares, compares]
  exact le_total _ _

/-- Members stand in the order of the comparison exactly if they stand in that of their keys. -/
theorem ordered_iff (compares : Compares key notAfter) (members : List α) :
    members.Pairwise (fun first second => notAfter first second = true) ↔ Ordered key members := by
  unfold Ordered
  simp only [compares _ _]

/-- Merge sort is stable. A level of the input is already in order, so the sort keeps it as a part
of its output, and the output has no more members on that level. -/
theorem stableSort_mergeSort (compares : Compares key notAfter) (input : List α) :
    StableSort key input (input.mergeSort notAfter) where
  perm := List.mergeSort_perm input notAfter
  ordered := (compares.ordered_iff _).mp
    (List.pairwise_mergeSort compares.trans compares.total input)
  stable := by
    intro value
    have inOrder : (level key value input).Pairwise fun first second =>
        notAfter first second = true := by
      refine (compares.ordered_iff _).mpr (List.pairwise_of_forall_mem_list ?_)
      intro first firstMember second secondMember
      exact le_of_eq (((mem_level ..).mp firstMember).2.trans
        ((mem_level ..).mp secondMember).2.symm)
    have kept : (level key value input).Sublist (input.mergeSort notAfter) :=
      List.sublist_mergeSort compares.trans compares.total inOrder List.filter_sublist
    have within : (level key value input).Sublist
        (level key value (input.mergeSort notAfter)) := by
      simpa only [level, List.filter_filter, Bool.and_self] using
        kept.filter fun member => decide (key member = value)
    have sameLength := ((List.mergeSort_perm input notAfter).filter
      fun member => decide (key member = value)).length_eq
    exact (within.eq_of_length sameLength.symm).symm

/-- A level of merged lists is the first list's level followed by the second's. Where the second
list goes first, its member's key is below every key that the first list has left. -/
theorem level_merge (compares : Compares key notAfter) (value : κ) (left right : List α)
    (ordered : Ordered key left) :
    level key value (left.merge right notAfter) =
      level key value left ++ level key value right := by
  induction left generalizing right with
  | nil => simp
  | cons first rest leftHypothesis =>
    induction right with
    | nil => simp
    | cons second others rightHypothesis =>
      by_cases before : notAfter first second = true
      · rw [List.cons_merge_cons_pos _ _ _ before, ← List.singleton_append, level_append,
          leftHypothesis _ ordered.tail, ← List.append_assoc, ← level_append,
          List.singleton_append]
      · rw [List.cons_merge_cons_neg _ _ _ before]
        have below : key second < key first := by
          rw [compares] at before
          exact lt_of_not_ge before
        by_cases onLevel : key second = value
        · have nothing : level key value (first :: rest) = [] := by
            refine List.filter_eq_nil_iff.mpr ?_
            intro member inside
            have above : key first ≤ key member := by
              rcases List.mem_cons.mp inside with same | later
              · exact le_of_eq (congrArg key same.symm)
              · exact List.rel_of_pairwise_cons ordered later
            have beyond : key member ≠ value := by
              rw [← onLevel]
              exact ne_of_gt (lt_of_lt_of_le below above)
            simpa using beyond
          subst onLevel
          rw [level_cons_same, rightHypothesis, nothing, level_cons_same, List.nil_append,
            List.nil_append]
        · rw [level_cons_other key onLevel, level_cons_other key onLevel, rightHypothesis]

/-- Merging the stable sorts of two lists is the stable sort of one list after the other. -/
theorem stableSort_merge (compares : Compares key notAfter)
    {first second firstSorted secondSorted : List α} (left : StableSort key first firstSorted)
    (right : StableSort key second secondSorted) :
    StableSort key (first ++ second) (firstSorted.merge secondSorted notAfter) where
  perm := (List.merge_perm_append notAfter).trans (left.perm.append right.perm)
  ordered := (compares.ordered_iff _).mp
    (List.pairwise_merge compares.trans compares.total _ _
      ((compares.ordered_iff _).mpr left.ordered) ((compares.ordered_iff _).mpr right.ordered))
  stable := by
    intro value
    rw [compares.level_merge value _ _ left.ordered, left.stable, right.stable, level_append]

end Compares

/-- Two labellings of one list that keep the keys alike are sorted alike: one order of the list's
members gives both. -/
theorem StableSort.exists_common_order {γ : Type} {key : α → κ} {otherKey : β → κ}
    {members : List γ} {label : γ → α} {otherLabel : γ → β} {output : List α} {otherOutput : List β}
    (sorted : StableSort key (members.map label) output)
    (otherSorted : StableSort otherKey (members.map otherLabel) otherOutput)
    (same : ∀ member ∈ members, key (label member) = otherKey (otherLabel member)) :
    ∃ order : List γ, order.Perm members ∧ output = order.map label ∧
      otherOutput = order.map otherLabel := by
  have compares : Compares (fun member => key (label member))
      (fun first second => decide (key (label first) ≤ key (label second))) := by
    intro first second
    rw [decide_eq_true_eq]
  have inOrder := compares.stableSort_mergeSort members
  have labelled := inOrder.map label key fun _ _ => rfl
  have otherLabelled :=
    inOrder.map otherLabel otherKey fun member inside => (same member inside).symm
  exact ⟨_, inOrder.perm, labelled.unique sorted, otherLabelled.unique otherSorted⟩

/-- What comes first in merged lists is found among the first members of both. -/
theorem head?_merge (notAfter : α → α → Bool) (left right : List α) :
    (left.merge right notAfter).head? =
      (left.head?.toList.merge right.head?.toList notAfter).head? := by
  cases left with
  | nil => cases right <;> simp
  | cons first rest =>
    cases right with
    | nil => simp
    | cons second others =>
      by_cases before : notAfter first second = true <;> simp [before]

end ReleaseFinder.Sorting
