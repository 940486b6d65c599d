import Mathlib
import ReleaseFinder.Dictionary

/-!
# Pairs put into a dictionary

A dictionary made of pairs has, under every name, the value of the last pair with this name. So it
has as many entries as there are names, which is less than the number of pairs as soon as a name
comes twice.

The order of the pairs matters only where it decides which of them is the last. Pairs may be put in
in any order if those with one name have one value, and so in particular if no name comes twice.
-/

namespace ReleaseFinder.Dictionary

variable {α : Type}

/-- Every entry stands once. -/
theorem nodup_entries (dictionary : Dictionary α) : dictionary.entries.Nodup :=
  dictionary.ordered.imp fun below same => ne_of_lt below (congrArg Prod.fst same)

/-- Dictionaries in which the same is found under every name are one. -/
theorem eq_of_lookup? {left right : Dictionary α}
    (same : ∀ name, left.lookup? name = right.lookup? name) : left = right := by
  apply ext
  have antisymmetric (first second : String × α) (below : first.1 < second.1)
      (above : second.1 < first.1) :
      first = second := absurd above (String.lt_asymm below)
  refine List.Perm.eq_of_pairwise (fun first second _ _ => antisymmetric first second) left.ordered
    right.ordered ?_
  refine (List.perm_ext_iff_of_nodup left.nodup_entries right.nodup_entries).mpr ?_
  rintro ⟨name, value⟩
  rw [← lookup?_eq_some_iff, ← lookup?_eq_some_iff, same]

/-- One more pair is put in after the ones before it. -/
theorem ofList_concat (pairs : List (String × α)) (pair : String × α) :
    ofList (pairs ++ [pair]) = (ofList pairs).insert pair.1 pair.2 := by
  simp [ofList]

/-- Of the pairs put in, the last ones are looked at first. -/
theorem lookup?_ofList (pairs : List (String × α)) (name : String) :
    (ofList pairs).lookup? name = pairs.reverse.lookup name := by
  induction pairs using List.reverseRecOn with
  | nil => rfl
  | append_singleton earlier last inductionHypothesis =>
    rw [ofList_concat, lookup?_insert, inductionHypothesis, List.reverse_append,
      List.reverse_singleton, List.singleton_append, lookup_pair]

/-- What is found under a name is the value of the last pair with this name. -/
theorem lookup?_ofList_iff (pairs : List (String × α)) (name : String) (value : α) :
    (ofList pairs).lookup? name = some value ↔
      ∃ before after, pairs = before ++ (name, value) :: after ∧ name ∉ after.map Prod.fst := by
  rw [lookup?_ofList, List.lookup_eq_some_iff]
  constructor
  · rintro ⟨after, before, split, others⟩
    refine ⟨before.reverse, after.reverse, ?_, ?_⟩
    · simpa using congrArg List.reverse split
    · rw [List.map_reverse, List.mem_reverse, List.mem_map]
      rintro ⟨pair, member, named⟩
      exact absurd named.symm (bne_iff_ne.mp (others pair member))
  · rintro ⟨before, after, rfl, others⟩
    refine ⟨after.reverse, before.reverse, by simp, ?_⟩
    intro pair member
    refine bne_iff_ne.mpr ?_
    rintro rfl
    exact others (List.mem_map_of_mem (List.mem_reverse.mp member))

/-! ## Names -/

/-- The names are those under which something is found. -/
theorem mem_names_iff (dictionary : Dictionary α) (name : String) :
    name ∈ dictionary.names ↔ ∃ value, dictionary.lookup? name = some value := by
  simp [names, lookup?_eq_some_iff]

/-- Every name stands once. -/
theorem nodup_names (dictionary : Dictionary α) : dictionary.names.Nodup :=
  List.pairwise_map.mpr (dictionary.ordered.imp fun below => ne_of_lt below)

/-- The names of a dictionary are those of the pairs put in. -/
theorem mem_names_ofList (pairs : List (String × α)) (name : String) :
    name ∈ (ofList pairs).names ↔ name ∈ pairs.map Prod.fst := by
  constructor
  · intro named
    obtain ⟨value, found⟩ := (mem_names_iff _ name).mp named
    obtain ⟨before, after, rfl, -⟩ := (lookup?_ofList_iff pairs name value).mp found
    exact List.mem_map_of_mem (List.mem_append_right before List.mem_cons_self)
  · intro named
    obtain ⟨pair, member, rfl⟩ := List.mem_map.mp named
    rw [mem_names_iff, lookup?_ofList, ← Option.ne_none_iff_exists']
    intro missing
    have other := List.lookup_eq_none_iff.mp missing pair (List.mem_reverse.mpr member)
    exact bne_iff_ne.mp other rfl

/-- The names of the dictionary are those of the pairs, each once. -/
theorem names_ofList_perm (pairs : List (String × α)) :
    (ofList pairs).names.Perm (pairs.map Prod.fst).dedup := by
  refine (List.perm_ext_iff_of_nodup (nodup_names _) (List.nodup_dedup _)).mpr fun name => ?_
  rw [mem_names_ofList, List.mem_dedup]

/-- A dictionary has no more entries than pairs were put in. -/
theorem length_entries_ofList_le (pairs : List (String × α)) :
    (ofList pairs).entries.length ≤ pairs.length := by
  have once := (names_ofList_perm pairs).length_eq
  have fewer := (List.dedup_sublist (pairs.map Prod.fst)).length_le
  rw [names, List.length_map] at once
  rwa [← once, List.length_map] at fewer

/-- It has as many exactly if no name came twice. -/
theorem length_entries_ofList_eq_iff (pairs : List (String × α)) :
    (ofList pairs).entries.length = pairs.length ↔ (pairs.map Prod.fst).Nodup := by
  have once := (names_ofList_perm pairs).length_eq
  rw [names, List.length_map] at once
  rw [once, ← List.dedup_eq_self, ← (List.dedup_sublist _).length_eq, List.length_map]

/-- It has no entry exactly if no pair was put in. -/
theorem isEmpty_ofList_iff (pairs : List (String × α)) :
    (ofList pairs).isEmpty = true ↔ pairs = [] := by
  have same : (ofList pairs).names = [] ↔ pairs.map Prod.fst = [] := by
    simp only [List.eq_nil_iff_forall_not_mem, mem_names_ofList]
  rwa [names, List.map_eq_nil_iff, List.map_eq_nil_iff, ← List.isEmpty_iff, ← isEmpty] at same

/-! ## Order -/

/-- Pairs with one name have one value. -/
def Agree (pairs : List (String × α)) : Prop :=
  ∀ name value other, (name, value) ∈ pairs → (name, other) ∈ pairs → value = other

/-- Pairs whose names differ agree. -/
theorem Agree.of_nodup {pairs : List (String × α)} (distinct : (pairs.map Prod.fst).Nodup) :
    Agree pairs := by
  intro name value other member otherMember
  exact congrArg Prod.snd (List.inj_on_of_nodup_map distinct member otherMember rfl)

/-- The last pair put in is found. -/
theorem lookup?_ofList_concat (pairs : List (String × α)) (name : String) (value : α) :
    (ofList (pairs ++ [(name, value)])).lookup? name = some value := by
  rw [ofList_concat, lookup?_insert, if_pos rfl]

/-- If pairs agree, it does not matter which of them with a name is the last. -/
theorem lookup?_ofList_iff_mem {pairs : List (String × α)} (agree : Agree pairs) (name : String)
    (value : α) :
    (ofList pairs).lookup? name = some value ↔ (name, value) ∈ pairs := by
  constructor
  · intro found
    obtain ⟨before, after, rfl, -⟩ := (lookup?_ofList_iff pairs name value).mp found
    exact List.mem_append_right before List.mem_cons_self
  · intro member
    have named : name ∈ (ofList pairs).names :=
      (mem_names_ofList pairs name).mpr (List.mem_map_of_mem member)
    obtain ⟨kept, found⟩ := (mem_names_iff _ name).mp named
    obtain ⟨before, after, split, -⟩ := (lookup?_ofList_iff pairs name kept).mp found
    have keptMember : (name, kept) ∈ pairs :=
      split ▸ List.mem_append_right before List.mem_cons_self
    rwa [agree name value kept member keptMember]

/-- If no name comes twice, the entries are the pairs in another order. -/
theorem entries_ofList_perm {pairs : List (String × α)} (distinct : (pairs.map Prod.fst).Nodup) :
    (ofList pairs).entries.Perm pairs := by
  refine (List.perm_ext_iff_of_nodup (nodup_entries _) (List.Nodup.of_map _ distinct)).mpr ?_
  rintro ⟨name, value⟩
  rw [← lookup?_eq_some_iff, lookup?_ofList_iff_mem (.of_nodup distinct)]

/-- Pairs that agree may be put in in any order. -/
theorem ofList_eq_of_perm {pairs others : List (String × α)} (agree : Agree pairs)
    (moved : others.Perm pairs) : ofList others = ofList pairs := by
  have alsoAgree : Agree others := fun name value other member otherMember =>
    agree name value other (moved.mem_iff.mp member) (moved.mem_iff.mp otherMember)
  refine eq_of_lookup? fun name => Option.ext fun value => ?_
  rw [lookup?_ofList_iff_mem agree, lookup?_ofList_iff_mem alsoAgree, moved.mem_iff]

end ReleaseFinder.Dictionary
