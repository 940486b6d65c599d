import ReleaseFinder.Proofs.DocumentEdits

/-!
# Values without tags

A tag of a document's own says nothing to the lenient readers. `untagged` takes the tags away at any
depth, on keys as on values. Scalars are read through their tags; but a name is only found when its
key has no tag, and a list of texts only recognised when it has none. So a lookup reads a value
differently without tags exactly if the entry that has the name, looking through the tags of its
key, has a tag on its key or is read differently itself.

Taking tags away from keys may make two of them one, and then there is no mapping to compare with.
`IsProper` are the values without such a clash.
-/

namespace ReleaseFinder

namespace Yaml

namespace Value

mutual

/-- The value without tags at any depth. -/
def untagged : Value → Value
  | .sequence items => .sequence (untaggedItems items)
  | .mapping entries => .mapping (untaggedEntries entries)
  | .tagged _ value => untagged value
  | value => value

/-- The items without tags. -/
def untaggedItems : List Value → List Value
  | [] => []
  | item :: rest => untagged item :: untaggedItems rest

/-- The entries without tags, neither on their keys nor on their values. -/
def untaggedEntries : List (Value × Value) → List (Value × Value)
  | [] => []
  | (key, value) :: rest => (untagged key, untagged value) :: untaggedEntries rest

end

mutual

/-- Every mapping in the value has each key once. -/
def IsProper : Value → Prop
  | .sequence items => AllProper items
  | .mapping entries => distinctKeys entries = true ∧ ValuesProper entries
  | .tagged _ value => IsProper value
  | _ => True

/-- The items are proper. -/
def AllProper : List Value → Prop
  | [] => True
  | item :: rest => IsProper item ∧ AllProper rest

/-- The values of the entries are proper. -/
def ValuesProper : List (Value × Value) → Prop
  | [] => True
  | (_, value) :: rest => IsProper value ∧ ValuesProper rest

end

/-- The value is a sequence under at least one tag. -/
def IsTaggedSequence (value : Value) : Prop :=
  value.withoutTags.IsPlainSequence ∧ ¬ value.IsPlainSequence

/-- Items lose their tags one by one. -/
theorem untaggedItems_eq_map (items : List Value) : untaggedItems items = items.map untagged := by
  induction items with
  | nil => rfl
  | cons item rest inductionHypothesis => rw [untaggedItems, inductionHypothesis, List.map_cons]

/-- Entries lose their tags one by one, on keys and values. -/
theorem untaggedEntries_eq_map (entries : Entries) :
    untaggedEntries entries = entries.map fun entry => (entry.1.untagged, entry.2.untagged) := by
  induction entries with
  | nil => rfl
  | cons entry rest inductionHypothesis => rw [untaggedEntries, inductionHypothesis, List.map_cons]

/-- Items are proper if each of them is. -/
theorem allProper_iff (items : List Value) : AllProper items ↔ ∀ item ∈ items, item.IsProper := by
  induction items with
  | nil => simp [AllProper]
  | cons item rest inductionHypothesis => rw [AllProper, inductionHypothesis, List.forall_mem_cons]

/-- The values of entries are proper if each of them is. -/
theorem valuesProper_iff (entries : Entries) :
    ValuesProper entries ↔ ∀ entry ∈ entries, entry.2.IsProper := by
  induction entries with
  | nil => simp [ValuesProper]
  | cons entry rest inductionHypothesis =>
    rw [ValuesProper, inductionHypothesis, List.forall_mem_cons]

/-- The tags in front go with the others. -/
theorem untagged_withoutTags (value : Value) : value.withoutTags.untagged = value.untagged := by
  fun_induction withoutTags value with
  | case1 tag value inductionHypothesis => rw [inductionHypothesis, untagged]
  | case2 value bare => rfl

/-- In front of a value there is no tag left when the tags there have gone. -/
theorem withoutTags_ne_tagged (value inner : Value) (tag : String) :
    value.withoutTags ≠ .tagged tag inner := by
  fun_induction withoutTags value with
  | case1 _ value inductionHypothesis => exact inductionHypothesis
  | case2 value bare => exact bare tag inner

/-- A value without tags is a text exactly if it is one under its tags. -/
theorem untagged_eq_text_iff (value : Value) (name : String) :
    value.untagged = .text name ↔ value.withoutTags = .text name := by
  rw [← untagged_withoutTags]
  cases bare : value.withoutTags with
  | tagged tag inner => exact absurd bare (withoutTags_ne_tagged value inner tag)
  | _ => simp [untagged]

/-- Scalars are read through tags. -/
theorem scalar?_untagged (value : Value) : value.untagged.scalar? = value.scalar? := by
  fun_induction scalar? value with
  | case5 tag value inductionHypothesis => rw [untagged, inductionHypothesis]
  | case6 value => cases value <;> simp_all [untagged, scalar?]
  | _ => simp [untagged, scalar?]

/-- Scalars are read through tags. -/
theorem scalar?_withoutTags (value : Value) : value.withoutTags.scalar? = value.scalar? := by
  rw [← scalar?_untagged, untagged_withoutTags, scalar?_untagged]

/-- Lists of scalars are read through the tags of their items. -/
theorem scalars_untagged (value : Value) : value.untagged.scalars = value.withoutTags.scalars := by
  rw [← untagged_withoutTags]
  cases bare : value.withoutTags with
  | tagged tag inner => exact absurd bare (withoutTags_ne_tagged value inner tag)
  | sequence items =>
    rw [untagged, scalars, scalars, untaggedItems_eq_map, List.filterMap_map]
    exact congrArg (List.filterMap · items) (funext scalar?_untagged)
  | _ => rfl

/-- What is no plain sequence has at most the scalar that it is. -/
theorem scalars_of_not_sequence {value : Value} (other : ¬ value.IsPlainSequence) :
    value.scalars = value.scalar?.toList := by
  cases value with
  | sequence items => exact absurd ⟨items, rfl⟩ other
  | _ => rfl

/-- A tag on a list hides the scalars in it. -/
theorem scalars_ne_withoutTags_iff (value : Value) :
    value.scalars ≠ value.withoutTags.scalars ↔
      value.withoutTags.scalars ≠ [] ∧ value.IsTaggedSequence := by
  by_cases plain : value.IsPlainSequence
  · obtain ⟨items, rfl⟩ := plain
    exact iff_of_false (fun differ => differ rfl) fun hidden => hidden.2.2 ⟨items, rfl⟩
  · rw [scalars_of_not_sequence plain, ← scalar?_withoutTags]
    by_cases sequence : value.withoutTags.IsPlainSequence
    · have none : value.withoutTags.scalar? = none := by
        obtain ⟨items, bare⟩ := sequence
        rw [bare]
        rfl
      rw [none, Option.toList_none, ne_comm]
      exact (and_iff_left ⟨sequence, plain⟩).symm
    · rw [scalars_of_not_sequence sequence]
      exact iff_of_false (fun differ => differ rfl) fun hidden => sequence hidden.2.1

/-- Without tags, a mapping has the entries that it has under its tags, without theirs. -/
theorem entries?_untagged (value : Value) :
    value.untagged.entries? = value.entries?.map untaggedEntries := by
  rw [entries?, ← untagged_withoutTags, entries?]
  cases bare : value.withoutTags with
  | tagged tag inner => exact absurd bare (withoutTags_ne_tagged value inner tag)
  | _ => rfl

/-- A value is a mapping under its tags exactly if it is one without them. -/
theorem isMapping_untagged_iff (value : Value) : value.untagged.IsMapping ↔ value.IsMapping := by
  rw [isMapping_iff, isMapping_iff, entries?_untagged, Option.isSome_map]

/-- What is no mapping under its tags is no mapping without them. -/
theorem not_isPlainMapping_untagged {value : Value} (other : ¬ value.IsMapping) :
    ¬ value.untagged.IsPlainMapping := by
  rintro ⟨entries, same⟩
  rw [← isMapping_untagged_iff, same] at other
  exact other (.mapping entries)

/-- A mapping stands for no text. -/
theorem not_isScalar_of_isMapping {value : Value} (mapping : value.IsMapping) :
    ¬ value.IsScalar := by
  induction mapping with
  | mapping entries => intro scalar; cases scalar
  | tagged tag value _ inductionHypothesis =>
    exact mt (isScalar_tagged_iff tag value).mp inductionHypothesis

/-- What is no mapping has no entries. -/
theorem inner_of_not_isMapping {value : Value} (other : ¬ value.IsMapping) : value.inner = [] := by
  rw [isMapping_iff, Bool.not_eq_true, Option.isSome_eq_false_iff,
    Option.isNone_iff_eq_none] at other
  rw [inner, other, Option.getD_none]

/-- A mapping without its tags has its entries without theirs. -/
theorem untagged_of_isMapping {value : Value} (mapping : value.IsMapping) :
    value.untagged = .mapping (untaggedEntries value.inner) := by
  induction mapping with
  | mapping entries => rfl
  | tagged tag value _ inductionHypothesis => exact inductionHypothesis

/-- What is proper without its tags is proper in its parts: the keys of its mapping differ without
tags, and the values of its entries and its items are proper without theirs. -/
theorem IsProper.distinctKeys_inner {value : Value} (proper : value.untagged.IsProper) :
    distinctKeys (untaggedEntries value.inner) = true := by
  by_cases mapping : value.IsMapping
  · rw [untagged_of_isMapping mapping] at proper
    exact proper.1
  · rw [inner_of_not_isMapping mapping]
    rfl

/-- The values in a proper mapping are proper. -/
theorem IsProper.entry {value key held : Value} (proper : value.untagged.IsProper)
    (member : (key, held) ∈ value.inner) : held.untagged.IsProper := by
  by_cases mapping : value.IsMapping
  · rw [untagged_of_isMapping mapping, IsProper, valuesProper_iff, untaggedEntries_eq_map] at proper
    exact proper.2 _ (List.mem_map_of_mem member)
  · rw [inner_of_not_isMapping mapping] at member
    cases member

/-- The items of a proper sequence are proper. -/
theorem IsProper.item {list item : Value} {items : List Value} (proper : list.untagged.IsProper)
    (given : list.withoutTags = .sequence items) (member : item ∈ items) :
    item.untagged.IsProper := by
  rw [← untagged_withoutTags, given, untagged, IsProper, allProper_iff,
    untaggedItems_eq_map] at proper
  exact proper _ (List.mem_map_of_mem member)

end Value

namespace Entries

open Value

/-- The entry has this name, if one looks through the tags of its key. -/
def Names (name : String) (entries : Entries) (key value : Value) : Prop :=
  (key, value) ∈ entries ∧ key.withoutTags = .text name

variable {entries : Entries}

/-- What has named entries is a mapping. -/
theorem Names.isMapping {name : String} {value key held : Value}
    (names : value.inner.Names name key held) : value.IsMapping := by
  by_contra other
  have member := names.1
  rw [inner_of_not_isMapping other] at member
  cases member

/-- A key is taken for a name without its tags if the text of the name is under them. -/
theorem isText_untagged (name : String) (key : Value) :
    key.untagged.isText name = true ↔ key.withoutTags = .text name := by
  rw [isText_eq_true_iff, untagged_eq_text_iff]

/-- A key that is taken for a name is the text of the name. -/
theorem withoutTags_of_isText {name : String} {key : Value} (named : key.isText name = true) :
    key.withoutTags = .text name := by
  rw [isText_eq_true_iff] at named
  subst named
  rfl

/-- Where keys differ even without tags, a name stands only once. -/
theorem not_names_of_front {name : String} {key value : Value} {rest : Entries}
    (distinct : distinctKeys (untaggedEntries ((key, value) :: rest)) = true)
    (front : key.withoutTags = .text name) (other held : Value) : ¬ rest.Names name other held := by
  rintro ⟨member, named⟩
  rw [untaggedEntries, distinctKeys, untaggedEntries_eq_map, Bool.and_eq_true, Bool.not_eq_true',
    List.any_eq_false] at distinct
  have clash := distinct.1 _ (List.mem_map_of_mem member)
  rw [(untagged_eq_text_iff key name).mpr front,
    (untagged_eq_text_iff other name).mpr named] at clash
  simp [same] at clash

/-- Nothing is held under a name that no entry has. -/
theorem held?_of_not_names {name : String} (missing : ∀ key value, ¬ entries.Names name key value) :
    entries.held? name = none ∧ held? (untaggedEntries entries) name = none := by
  induction entries with
  | nil => exact ⟨rfl, rfl⟩
  | cons entry rest inductionHypothesis =>
    obtain ⟨key, value⟩ := entry
    have other : ¬ key.withoutTags = .text name := fun named => missing key value ⟨by simp, named⟩
    obtain ⟨plain, bare⟩ := inductionHypothesis fun key value names =>
      missing key value ⟨List.mem_cons_of_mem _ names.1, names.2⟩
    rw [untaggedEntries, held?_cons, held?_cons, if_neg (mt withoutTags_of_isText other),
      if_neg (mt (isText_untagged name key).mp other)]
    exact ⟨plain, bare⟩

/-- The entry that has a name is held under it without tags, and with them if its key has none. -/
theorem held?_of_names (distinct : distinctKeys (untaggedEntries entries) = true) {name : String}
    {key value : Value} (names : entries.Names name key value) :
    entries.held? name = (if key.isText name then some value else none) ∧
      held? (untaggedEntries entries) name = some value.untagged := by
  induction entries with
  | nil => cases names.1
  | cons entry rest inductionHypothesis =>
    obtain ⟨first, held⟩ := entry
    obtain ⟨member, named⟩ := names
    rw [untaggedEntries, held?_cons, held?_cons]
    by_cases front : first.withoutTags = .text name
    · have missing := not_names_of_front distinct front
      rw [List.mem_cons] at member
      obtain same | member := member
      · obtain ⟨rfl, rfl⟩ := Prod.mk.inj same
        rw [(held?_of_not_names missing).1, if_pos ((isText_untagged name key).mpr named)]
        exact ⟨rfl, rfl⟩
      · exact absurd ⟨member, named⟩ (missing key value)
    · rw [untaggedEntries, distinctKeys, Bool.and_eq_true] at distinct
      rw [if_neg (mt withoutTags_of_isText front),
        if_neg (mt (isText_untagged name first).mp front)]
      refine inductionHypothesis distinct.2 ⟨List.mem_of_ne_of_mem ?_ member, named⟩
      rintro same
      exact front ((Prod.mk.inj same).1 ▸ named)

/-- What is read under a name depends on tags exactly if a tag on its key hides something, or a tag
on its value does. -/
theorem read_ne_iff {α : Type} (read : Value → α) (default : α)
    (distinct : distinctKeys (untaggedEntries entries) = true) (name : String) :
    (entries.held? name).elim default read ≠
      (held? (untaggedEntries entries) name).elim default read ↔
      ∃ key value, entries.Names name key value ∧
        (key ≠ .text name ∧ read value.untagged ≠ default ∨
          key = .text name ∧ read value ≠ read value.untagged) := by
  have step {key value : Value} (names : entries.Names name key value) :
      (entries.held? name).elim default read ≠
          (held? (untaggedEntries entries) name).elim default read ↔
        (key ≠ .text name ∧ read value.untagged ≠ default ∨
          key = .text name ∧ read value ≠ read value.untagged) := by
    obtain ⟨plain, bare⟩ := held?_of_names distinct names
    rw [plain, bare]
    by_cases named : key = .text name
    · rw [if_pos ((isText_eq_true_iff name key).mpr named)]
      simp [named]
    · rw [if_neg (mt (isText_eq_true_iff name key).mp named)]
      simp [named, eq_comm]
  constructor
  · intro differ
    by_contra none
    have missing (key value : Value) (names : entries.Names name key value) : False :=
      none ⟨key, value, names, (step names).mp differ⟩
    obtain ⟨plain, bare⟩ := held?_of_not_names missing
    rw [plain, bare] at differ
    exact differ rfl
  · rintro ⟨key, value, names, hidden⟩
    exact (step names).mpr hidden

/-! ### Readers -/

/-- A reader to which null says nothing may look at what is held. -/
theorem elim_get? {α : Type} {read : Value → α} {default : α} (nothing : read .null = default)
    (entries : Entries) (name : String) :
    (entries.get? name).elim default read = (entries.held? name).elim default read := by
  rw [get?_eq_bind]
  cases entries.held? name with
  | none => rfl
  | some value =>
    cases value with
    | null => exact nothing.symm
    | _ => rfl

/-- A text is read from the value that is held under its name. -/
theorem text?_eq_elim (entries : Entries) (name : String) :
    entries.text? name = (entries.held? name).elim none scalar? := by
  have nothing : scalar? .null = none := rfl
  rw [← elim_get? nothing, text?]
  cases entries.get? name <;> rfl

/-- Texts are read from the value that is held under their name. -/
theorem texts_eq_elim (entries : Entries) (name : String) :
    entries.texts name = (entries.held? name).elim [] scalars := by
  have nothing : scalars .null = [] := rfl
  rw [← elim_get? nothing, texts]
  cases entries.get? name <;> rfl

/-- A text is hidden by a tag on its name only. -/
theorem text?_ne_iff (distinct : distinctKeys (untaggedEntries entries) = true) (name : String) :
    entries.text? name ≠ text? (untaggedEntries entries) name ↔
      ∃ key value, entries.Names name key value ∧ value.IsScalar ∧ key ≠ .text name := by
  rw [text?_eq_elim, text?_eq_elim, read_ne_iff scalar? none distinct]
  refine exists_congr fun key => exists_congr fun value => and_congr_right fun _ => ?_
  rw [scalar?_untagged, isScalar_iff, Option.isSome_iff_ne_none, and_comm]
  exact or_iff_left fun differ => differ.2 rfl

/-- Without tags, there is a text under a name if some entry has the name and a scalar. -/
theorem text?_untagged_isSome_iff (distinct : distinctKeys (untaggedEntries entries) = true)
    (name : String) :
    (text? (untaggedEntries entries) name).isSome = true ↔
      ∃ key value, entries.Names name key value ∧ value.IsScalar := by
  rw [text?_eq_elim]
  have read {key value : Value} (names : entries.Names name key value) :
      (held? (untaggedEntries entries) name).elim none scalar? = value.scalar? := by
    rw [(held?_of_names distinct names).2, Option.elim_some, scalar?_untagged]
  constructor
  · intro given
    by_contra none
    have missing : ∀ key value, ¬ entries.Names name key value := by
      intro key value names
      rw [read names, ← isScalar_iff] at given
      exact none ⟨key, value, names, given⟩
    rw [(held?_of_not_names missing).2] at given
    cases given
  · rintro ⟨key, value, names, scalar⟩
    rw [read names, ← isScalar_iff]
    exact scalar

/-- Texts are hidden by a tag on their name, or on their list if it is one. -/
theorem texts_ne_iff (distinct : distinctKeys (untaggedEntries entries) = true) (name : String) :
    entries.texts name ≠ texts (untaggedEntries entries) name ↔
      ∃ key list, entries.Names name key list ∧ list.withoutTags.scalars ≠ [] ∧
        (key ≠ .text name ∨ list.IsTaggedSequence) := by
  rw [texts_eq_elim, texts_eq_elim, read_ne_iff scalars [] distinct]
  refine exists_congr fun key => exists_congr fun list => and_congr_right fun _ => ?_
  rw [scalars_untagged, scalars_ne_withoutTags_iff]
  by_cases named : key = .text name <;> simp [named]

end Entries

end Yaml

end ReleaseFinder
