import ReleaseFinder.Proofs.UntaggedValues

/-!
# Tags of selectors

A selector is read through tags on itself and on the scalars in it. But its choices, its list of
filters, a filter and the list of a filter's arguments are only recognised when they are written
without a tag, and their names only when the keys have none. What such a tag hides is left out of
the selector without a fault.

`TagHides` lists the places where a tag makes a difference. A selector is the same without its tags
exactly when it has no such place.
-/

namespace ReleaseFinder

open Yaml (Value Entries)
open Yaml.Value (untagged untaggedEntries distinctKeys)

/-- A reading that passes over no more items than another one finds no fewer. -/
theorem length_filterMap_le {α β : Type} {read more : α → Option β} (items : List α)
    (grows : ∀ item ∈ items, (read item).isSome = true → (more item).isSome = true) :
    (items.filterMap read).length ≤ (items.filterMap more).length := by
  rw [List.length_filterMap_eq_countP, List.length_filterMap_eq_countP]
  exact List.countP_mono_left grows

/-- Two readings of a list agree exactly if they agree on every item, when one passes over no more
items than the other. -/
theorem filterMap_eq_iff {α β : Type} {read more : α → Option β} (items : List α)
    (grows : ∀ item ∈ items, (read item).isSome = true → (more item).isSome = true) :
    items.filterMap read = items.filterMap more ↔ ∀ item ∈ items, read item = more item := by
  refine ⟨fun same => ?_, List.filterMap_congr⟩
  induction items with
  | nil => simp
  | cons item rest inductionHypothesis =>
    obtain ⟨first, later⟩ := List.forall_mem_cons.mp grows
    rw [List.forall_mem_cons]
    cases seen : read item with
    | none =>
      rw [List.filterMap_cons_none seen] at same
      cases found : more item with
      | none =>
        rw [List.filterMap_cons_none found] at same
        exact ⟨rfl, inductionHypothesis later same⟩
      | some value =>
        -- what only the other reading finds makes its list longer, and the rest cannot make up for
        -- it
        rw [List.filterMap_cons_some found] at same
        have shorter := length_filterMap_le rest later
        rw [same, List.length_cons] at shorter
        omega
    | some value =>
      obtain ⟨other, found⟩ :=
        Option.isSome_iff_exists.mp (first (by rw [seen, Option.isSome_some]))
      rw [List.filterMap_cons_some seen, List.filterMap_cons_some found, List.cons.injEq] at same
      rw [found, same.1]
      exact ⟨rfl, inductionHypothesis later same.2⟩

/-! ### Filters -/

namespace Filter

/-- Without its tags, the value would be a filter: a scalar, or a mapping with a scalar for its
name. -/
def Told (item : Value) : Prop :=
  item.IsScalar ∨ ∃ key name, item.inner.Names "name" key name ∧ name.IsScalar

/-- A tag makes a difference to a filter. -/
inductive TagHides (item : Value) : Prop where
  /-- The mapping has a tag. -/
  | whole (told : Told item) (mapping : item.IsMapping) (tagged : ¬ item.IsPlainMapping)
  /-- The key of the name has a tag. -/
  | name {key name : Value} (names : item.inner.Names "name" key name) (scalar : name.IsScalar)
      (tagged : key ≠ .text "name")
  /-- The list of arguments or its key has a tag. -/
  | arguments {key list : Value} (told : Told item) (names : item.inner.Names "args" key list)
      (given : list.withoutTags.scalars ≠ []) (tagged : key ≠ .text "args" ∨ list.IsTaggedSequence)

/-- Where a tag makes a difference, there is a filter without the tags. -/
theorem TagHides.told {item : Value} (hides : TagHides item) : Told item := by
  cases hides with
  | whole told => exact told
  | name names scalar => exact .inr ⟨_, _, names, scalar⟩
  | arguments told => exact told

/-- A filter from the entries of a mapping. -/
theorem ofYaml?_mapping (entries : Entries) :
    ofYaml? (.mapping entries) =
      (entries.text? "name").map fun name => { name, arguments := entries.texts "args" } := by
  rw [ofYaml?]
  cases entries.text? "name" <;> rfl

/-- Anything but a mapping without a tag is read as a name. -/
theorem ofYaml?_of_not_mapping {item : Value} (other : ¬ item.IsPlainMapping) :
    ofYaml? item = item.scalar?.map fun name => { name } := by
  cases item with
  | mapping entries => exact absurd ⟨entries, rfl⟩ other
  | _ => rfl

variable {item : Value}

/-- Where a tag makes a difference, there is a mapping under the tags. -/
theorem TagHides.isMapping (hides : TagHides item) : item.IsMapping := by
  cases hides with
  | whole _ mapping => exact mapping
  | name names => exact names.isMapping
  | arguments _ names => exact names.isMapping

/-- What would be a filter without its tags is read as one when they are gone. -/
theorem ofYaml?_untagged_isSome_iff (distinct : distinctKeys (untaggedEntries item.inner) = true) :
    (ofYaml? item.untagged).isSome = true ↔ Told item := by
  by_cases mapping : item.IsMapping
  · rw [Value.untagged_of_isMapping mapping, ofYaml?_mapping, Option.isSome_map,
      Entries.text?_untagged_isSome_iff distinct]
    exact (or_iff_right (Value.not_isScalar_of_isMapping mapping)).symm
  · rw [ofYaml?_of_not_mapping (Value.not_isPlainMapping_untagged mapping), Option.isSome_map,
      Value.scalar?_untagged, ← Value.isScalar_iff]
    refine (or_iff_left ?_).symm
    rintro ⟨key, name, names, _⟩
    exact mapping names.isMapping

/-- In a mapping without a tag of its own, the name or the arguments may be hidden. -/
theorem ofYaml?_mapping_ne_iff {entries : Entries}
    (distinct : distinctKeys (untaggedEntries entries) = true) :
    ofYaml? (.mapping entries) ≠ ofYaml? (.mapping (untaggedEntries entries)) ↔
      TagHides (.mapping entries) := by
  have told : (ofYaml? (untagged (.mapping entries))).isSome = true ↔ Told (.mapping entries) :=
    ofYaml?_untagged_isSome_iff distinct
  rw [untagged, ofYaml?_mapping, Option.isSome_map] at told
  rw [ofYaml?_mapping, ofYaml?_mapping]
  by_cases named : entries.text? "name" = Entries.text? (untaggedEntries entries) "name"
  · rw [named]
    cases found : Entries.text? (untaggedEntries entries) "name" with
    | none =>
      rw [found] at told
      exact iff_of_false (fun differ => differ rfl) fun hides => by simpa using told.mpr hides.told
    | some name =>
      rw [found] at told
      have differ : (Option.some name).map (fun name => Filter.mk name (entries.texts "args")) ≠
          (Option.some name).map
            (fun name => Filter.mk name (Entries.texts (untaggedEntries entries) "args")) ↔
            entries.texts "args" ≠ Entries.texts (untaggedEntries entries) "args" := by
        simp
      rw [differ, Entries.texts_ne_iff distinct]
      constructor
      · rintro ⟨key, list, names, given, tagged⟩
        exact .arguments (told.mp rfl) names given tagged
      · intro hides
        cases hides with
        | whole _ _ tagged => exact absurd ⟨entries, rfl⟩ tagged
        | name names scalar tagged =>
          exact absurd named
            ((Entries.text?_ne_iff distinct "name").mpr ⟨_, _, names, scalar, tagged⟩)
        | arguments _ names given tagged => exact ⟨_, _, names, given, tagged⟩
  · refine iff_of_true (fun same => named ?_) ?_
    · simpa [Function.comp_def] using congrArg (Option.map Filter.name) same
    · obtain ⟨key, name, names, scalar, tagged⟩ := (Entries.text?_ne_iff distinct "name").mp named
      exact .name names scalar tagged

/-- A filter is read through its tags unless one of them hides something. -/
theorem ofYaml?_ne_iff (distinct : distinctKeys (untaggedEntries item.inner) = true) :
    ofYaml? item ≠ ofYaml? item.untagged ↔ TagHides item := by
  by_cases plain : item.IsPlainMapping
  · obtain ⟨entries, rfl⟩ := plain
    exact ofYaml?_mapping_ne_iff distinct
  rw [ofYaml?_of_not_mapping plain]
  by_cases mapping : item.IsMapping
  · have none : item.scalar? = none := by
      have scalar := Value.not_isScalar_of_isMapping mapping
      rwa [Value.isScalar_iff, Option.not_isSome_iff_eq_none] at scalar
    rw [none, Option.map_none, ne_comm, ← Option.isSome_iff_ne_none,
      ofYaml?_untagged_isSome_iff distinct]
    exact ⟨fun told => .whole told mapping plain, TagHides.told⟩
  · rw [ofYaml?_of_not_mapping (Value.not_isPlainMapping_untagged mapping), Value.scalar?_untagged]
    exact iff_of_false (fun differ => differ rfl) fun hides => mapping hides.isMapping

/-- A tag only hides filters. -/
theorem told_of_ofYaml? (distinct : distinctKeys (untaggedEntries item.inner) = true)
    (read : (ofYaml? item).isSome = true) : Told item := by
  rw [← ofYaml?_untagged_isSome_iff distinct]
  by_cases same : ofYaml? item = ofYaml? item.untagged
  · rwa [← same]
  · exact (ofYaml?_untagged_isSome_iff distinct).mpr ((ofYaml?_ne_iff distinct).mp same).told

variable {list : Value}

/-- What is no plain sequence gives no filters. -/
theorem listOfYaml_of_not_sequence (other : ¬ list.IsPlainSequence) : listOfYaml list = [] := by
  cases list with
  | sequence items => exact absurd ⟨items, rfl⟩ other
  | _ => rfl

/-- The filters of a list without tags. -/
theorem listOfYaml_untagged {items : List Value} (given : list.withoutTags = .sequence items) :
    listOfYaml list.untagged = items.filterMap fun item => ofYaml? item.untagged := by
  rw [← Value.untagged_withoutTags, given, untagged, listOfYaml, Value.untaggedItems_eq_map,
    List.filterMap_map]
  rfl

/-- What is no sequence under its tags gives no filters without them either. -/
theorem listOfYaml_untagged_of_not_sequence (other : ¬ list.withoutTags.IsPlainSequence) :
    listOfYaml list.untagged = [] := by
  rw [← Value.untagged_withoutTags]
  cases bare : list.withoutTags with
  | sequence items => exact absurd ⟨items, bare⟩ other
  | tagged tag inner => exact absurd bare (Value.withoutTags_ne_tagged list inner tag)
  | _ => rfl

/-- Without tags, there are filters in a list if some item of it would be one. -/
theorem listOfYaml_untagged_ne_nil_iff (proper : list.untagged.IsProper) :
    listOfYaml list.untagged ≠ [] ↔
      ∃ items item, list.withoutTags = .sequence items ∧ item ∈ items ∧ Told item := by
  by_cases sequence : list.withoutTags.IsPlainSequence
  · obtain ⟨items, given⟩ := sequence
    rw [listOfYaml_untagged given]
    have told (item : Value) (member : item ∈ items) :
        ofYaml? item.untagged = none ↔ ¬ Told item := by
      rw [← ofYaml?_untagged_isSome_iff (proper.item given member).distinctKeys_inner,
        Option.not_isSome_iff_eq_none]
    rw [ne_eq, List.filterMap_eq_nil_iff]
    constructor
    · intro differ
      by_contra none
      exact differ fun item member =>
        (told item member).mpr fun held => none ⟨items, item, given, member, held⟩
    · rintro ⟨others, item, same, member, held⟩ nothing
      obtain rfl := Value.sequence.inj (given.symm.trans same)
      exact (told item member).mp (nothing item member) held
  · rw [listOfYaml_untagged_of_not_sequence sequence]
    exact iff_of_false (fun differ => differ rfl) fun ⟨items, _, given, _⟩ =>
      sequence ⟨items, given⟩

/-- The filters of a list are hidden by a tag on the list, or by one in a filter. -/
theorem listOfYaml_ne_iff (proper : list.untagged.IsProper) :
    listOfYaml list ≠ listOfYaml list.untagged ↔
      ∃ items item, list.withoutTags = .sequence items ∧ item ∈ items ∧
        (Told item ∧ ¬ list.IsPlainSequence ∨ TagHides item) := by
  by_cases plain : list.IsPlainSequence
  · obtain ⟨items, rfl⟩ := plain
    have distinct (item : Value) (member : item ∈ items) :
        distinctKeys (untaggedEntries item.inner) = true :=
      (proper.item rfl member).distinctKeys_inner
    have grows (item : Value) (member : item ∈ items) (read : (ofYaml? item).isSome = true) :
        (ofYaml? item.untagged).isSome = true :=
      (ofYaml?_untagged_isSome_iff (distinct item member)).mpr
        (told_of_ofYaml? (distinct item member) read)
    rw [listOfYaml_untagged rfl, listOfYaml, ne_eq, filterMap_eq_iff items grows]
    constructor
    · intro differ
      by_contra none
      refine differ fun item member => ?_
      by_contra hidden
      exact none
        ⟨items, item, rfl, member, .inr ((ofYaml?_ne_iff (distinct item member)).mp hidden)⟩
    · rintro ⟨others, item, same, member, ⟨_, tagged⟩ | hides⟩ agree
      · exact tagged ⟨items, rfl⟩
      · obtain rfl := Value.sequence.inj same
        exact (ofYaml?_ne_iff (distinct item member)).mpr hides (agree item member)
  · rw [listOfYaml_of_not_sequence plain, ne_comm, listOfYaml_untagged_ne_nil_iff proper]
    refine exists_congr fun items => exists_congr fun item =>
      and_congr_right fun _ => and_congr_right fun _ => ?_
    constructor
    · exact fun told => .inl ⟨told, plain⟩
    · rintro (⟨told, _⟩ | hides)
      · exact told
      · exact hides.told

end Filter

/-! ### Selectors -/

namespace Selector

/-- A tag makes a difference to a selector. -/
inductive TagHides (value : Value) : Prop where
  /-- The key of the path has a tag. -/
  | path {key path : Value} (names : value.inner.Names "selector" key path)
      (given : path.scalar?.getD "" ≠ "") (tagged : key ≠ .text "selector")
  /-- The key of another text has a tag. -/
  | text {name : String} {key text : Value} (among : name ∈ ["text", "attribute", "remove"])
      (names : value.inner.Names name key text) (scalar : text.IsScalar) (tagged : key ≠ .text name)
  /-- The mapping of the choices or its key has a tag. -/
  | choices {key choices : Value} (names : value.inner.Names "case" key choices)
      (mapping : choices.IsMapping) (tagged : key ≠ .text "case" ∨ ¬ choices.IsPlainMapping)
  /-- The list of the filters or its key has a tag. -/
  | filters {key list item : Value} {items : List Value}
    (names : value.inner.Names "filters" key list)
      (given : list.withoutTags = .sequence items) (member : item ∈ items) (told : Filter.Told item)
      (tagged : key ≠ .text "filters" ∨ ¬ list.IsPlainSequence)
  /-- There is a tag in a filter. -/
  | filter {key list item : Value} {items : List Value}
    (names : value.inner.Names "filters" key list)
      (given : list.withoutTags = .sequence items) (member : item ∈ items)
      (hides : Filter.TagHides item)

/-- The choices that a value is. -/
def choicesOf? : Value → Option (Dictionary String)
  | .mapping entries => some (Entries.dictionary Value.scalar? entries)
  | _ => none

/-- Choices are read through the tags of their keys and texts. -/
theorem dictionary_untagged (entries : Entries) :
    Entries.dictionary Value.scalar? (untaggedEntries entries) =
      Entries.dictionary Value.scalar? entries := by
  rw [Entries.dictionary, Entries.dictionary, Value.untaggedEntries_eq_map, List.filterMap_map]
  refine congrArg Dictionary.ofList (List.filterMap_congr fun entry _ => ?_)
  simp only [Function.comp_apply, Value.scalar?_untagged]

/-- What is no plain mapping gives no choices. -/
theorem choicesOf?_of_not_mapping {value : Value} (other : ¬ value.IsPlainMapping) :
    choicesOf? value = none := by
  cases value with
  | mapping entries => exact absurd ⟨entries, rfl⟩ other
  | _ => rfl

/-- Without tags, the mappings give choices, and nothing else does. -/
theorem choicesOf?_untagged_ne_none_iff (value : Value) :
    choicesOf? value.untagged ≠ none ↔ value.IsMapping := by
  by_cases mapping : value.IsMapping
  · rw [Value.untagged_of_isMapping mapping]
    exact iff_of_true (by simp [choicesOf?]) mapping
  · rw [choicesOf?_of_not_mapping (Value.not_isPlainMapping_untagged mapping)]
    exact iff_of_false (fun differ => differ rfl) mapping

/-- Choices are hidden by a tag on them. -/
theorem choicesOf?_ne_iff (value : Value) :
    choicesOf? value ≠ choicesOf? value.untagged ↔ value.IsMapping ∧ ¬ value.IsPlainMapping := by
  by_cases plain : value.IsPlainMapping
  · obtain ⟨entries, rfl⟩ := plain
    rw [untagged, choicesOf?, choicesOf?, dictionary_untagged]
    exact iff_of_false (fun differ => differ rfl) fun hidden => hidden.2 ⟨entries, rfl⟩
  · rw [choicesOf?_of_not_mapping plain, ne_comm, choicesOf?_untagged_ne_none_iff]
    exact (and_iff_left plain).symm

variable {entries : Entries}

/-- The choices of a selector are read from the value that is held under `case`. -/
theorem choices_eq_elim (entries : Entries) :
    (entries.entries? "case").map (Entries.dictionary Value.scalar?) =
      (entries.held? "case").elim none choicesOf? := by
  have nothing : choicesOf? .null = none := rfl
  rw [← Entries.elim_get? nothing, Entries.entries?]
  cases entries.get? "case" with
  | none => rfl
  | some value => cases value <;> rfl

/-- The path of a selector is read from the value that is held under `selector`. -/
theorem path_eq_elim (entries : Entries) :
    (entries.text? "selector").getD "" =
      (entries.held? "selector").elim "" fun path => path.scalar?.getD "" := by
  rw [Entries.text?_eq_elim]
  cases entries.held? "selector" <;> rfl

/-- Filters are read from the value that is held under their name. -/
theorem filtersNamed_eq_elim (entries : Entries) (name : String) :
    filtersNamed entries name = (entries.held? name).elim [] Filter.listOfYaml := by
  have nothing : Filter.listOfYaml .null = [] := rfl
  rw [← Entries.elim_get? nothing, filtersNamed]
  cases entries.get? name <;> rfl

/-- The path differs without tags exactly if it is not empty and its key has a tag. -/
theorem path_ne_iff (distinct : distinctKeys (untaggedEntries entries) = true) :
    (entries.text? "selector").getD "" ≠
      (Entries.text? (untaggedEntries entries) "selector").getD "" ↔
      ∃ key path, entries.Names "selector" key path ∧ path.scalar?.getD "" ≠ "" ∧
        key ≠ .text "selector" := by
  rw [path_eq_elim, path_eq_elim, Entries.read_ne_iff _ _ distinct]
  refine exists_congr fun key => exists_congr fun path => and_congr_right fun _ => ?_
  rw [Value.scalar?_untagged, and_comm]
  exact or_iff_left fun differ => differ.2 rfl

/-- The choices differ without tags exactly if there is a mapping of them, and it or its key has a
tag. -/
theorem choices_ne_iff (distinct : distinctKeys (untaggedEntries entries) = true) :
    (entries.entries? "case").map (Entries.dictionary Value.scalar?) ≠
        (Entries.entries? (untaggedEntries entries) "case").map (Entries.dictionary Value.scalar?) ↔
      ∃ key choices, entries.Names "case" key choices ∧ choices.IsMapping ∧
        (key ≠ .text "case" ∨ ¬ choices.IsPlainMapping) := by
  rw [choices_eq_elim, choices_eq_elim, Entries.read_ne_iff _ _ distinct]
  refine exists_congr fun key => exists_congr fun choices => and_congr_right fun _ => ?_
  rw [choicesOf?_untagged_ne_none_iff, choicesOf?_ne_iff]
  by_cases named : key = .text "case" <;> simp [named]

/-- The filters differ without tags exactly if the list or its key has a tag and holds some filter,
or a tag makes a difference to one of them. -/
theorem filtersNamed_ne_iff (distinct : distinctKeys (untaggedEntries entries) = true)
    (proper : ∀ key value, (key, value) ∈ entries → value.untagged.IsProper) (name : String) :
    filtersNamed entries name ≠ filtersNamed (untaggedEntries entries) name ↔
      ∃ key list items item, entries.Names name key list ∧ list.withoutTags = .sequence items ∧
        item ∈ items ∧ (Filter.Told item ∧ (key ≠ .text name ∨ ¬ list.IsPlainSequence) ∨
          Filter.TagHides item) := by
  rw [filtersNamed_eq_elim, filtersNamed_eq_elim, Entries.read_ne_iff _ _ distinct]
  constructor
  · rintro ⟨key, list, names, hidden⟩
    have fits := proper key list names.1
    rw [Filter.listOfYaml_untagged_ne_nil_iff fits, Filter.listOfYaml_ne_iff fits] at hidden
    obtain ⟨tagged, items, item, given, member, told⟩ | ⟨_, items, item, given, member, hidden⟩ :=
      hidden
    · exact ⟨key, list, items, item, names, given, member, .inl ⟨told, .inl tagged⟩⟩
    · exact ⟨key, list, items, item, names, given, member,
        hidden.imp_left fun ⟨told, tagged⟩ => ⟨told, .inr tagged⟩⟩
  · rintro ⟨key, list, items, item, names, given, member, hidden⟩
    have fits := proper key list names.1
    refine ⟨key, list, names, ?_⟩
    rw [Filter.listOfYaml_untagged_ne_nil_iff fits, Filter.listOfYaml_ne_iff fits]
    by_cases named : key = .text name
    · exact .inr ⟨named, items, item, given, member,
        hidden.imp_left fun ⟨told, tagged⟩ => ⟨told, tagged.resolve_left fun other => other named⟩⟩
    · exact .inl ⟨named, items, item, given, member,
        hidden.elim (fun told => told.1) Filter.TagHides.told⟩

variable {value : Value}

/-- A selector's record changes without tags exactly if one of its fields does. -/
theorem ofEntries_ne_iff (proper : value.untagged.IsProper) :
    ofEntries value.inner ≠ ofEntries (untaggedEntries value.inner) ↔ TagHides value := by
  have distinct := proper.distinctKeys_inner
  have path := path_ne_iff distinct
  have text := Entries.text?_ne_iff distinct
  have choices := choices_ne_iff distinct
  have filters := filtersNamed_ne_iff distinct (fun _ _ member => proper.entry member) "filters"
  constructor
  · intro differ
    by_contra unhidden
    have samePath := not_ne_iff.mp (mt path.mp fun ⟨_, _, names, given, tagged⟩ =>
      unhidden (.path names given tagged))
    have sameText {name : String} (among : name ∈ ["text", "attribute", "remove"]) :=
      not_ne_iff.mp (mt (text name).mp fun ⟨_, _, names, scalar, tagged⟩ =>
        unhidden (.text among names scalar tagged))
    have sameChoices := not_ne_iff.mp (mt choices.mp fun ⟨_, _, names, mapping, tagged⟩ =>
      unhidden (.choices names mapping tagged))
    have sameFilters := not_ne_iff.mp (mt filters.mp fun
      | ⟨_, _, _, _, names, given, member, .inl ⟨told, tagged⟩⟩ =>
        unhidden (.filters names given member told tagged)
      | ⟨_, _, _, _, names, given, member, .inr hides⟩ =>
        unhidden (.filter names given member hides))
    refine differ ?_
    rw [ofEntries, samePath, sameText (by simp), sameText (by simp), sameText (by simp),
      sameChoices, sameFilters, ← ofEntries]
  · intro hides same
    cases hides with
    | path names given tagged =>
      exact path.mpr ⟨_, _, names, given, tagged⟩ (congrArg Selector.selector same)
    | text among names scalar tagged =>
      have differ := (text _).mpr ⟨_, _, names, scalar, tagged⟩
      simp only [List.mem_cons, List.not_mem_nil, or_false] at among
      obtain rfl | rfl | rfl := among
      · exact differ (congrArg Selector.text same)
      · exact differ (congrArg Selector.attributeName same)
      · exact differ (congrArg Selector.remove same)
    | choices names mapping tagged =>
      exact choices.mpr ⟨_, _, names, mapping, tagged⟩ (congrArg Selector.choices same)
    | filters names given member told tagged =>
      exact filters.mpr ⟨_, _, _, _, names, given, member, .inl ⟨told, tagged⟩⟩
        (congrArg Selector.filters same)
    | filter names given member hides =>
      exact filters.mpr ⟨_, _, _, _, names, given, member, .inr hides⟩
        (congrArg Selector.filters same)

/-- A mapping is read as a selector by its entries, under any tags. -/
theorem ofYaml?_of_isMapping (mapping : value.IsMapping) :
    ofYaml? value = some (ofEntries value.inner) := by
  induction mapping with
  | mapping entries => rfl
  | tagged tag value _ inductionHypothesis => exact inductionHypothesis

/-- What is no mapping is read as a selector by its scalar alone. -/
theorem ofYaml?_of_not_isMapping (other : ¬ value.IsMapping) :
    ofYaml? value = value.scalar?.map fun selector => { selector } := by
  fun_induction ofYaml? value with
  | case1 entries => exact absurd (.mapping entries) other
  | case2 tag value inductionHypothesis =>
    rw [Value.isMapping_tagged_iff] at other
    exact inductionHypothesis other
  | case3 value => rfl

/-- Where a tag makes a difference to a selector, there is a mapping under the tags. -/
theorem TagHides.isMapping (hides : TagHides value) : value.IsMapping := by
  cases hides with
  | path names | text _ names | choices names | filters names | filter names =>
    exact names.isMapping

/-- Tags are read through, unless they hide something. Wherever taking the tags away leaves a
document's value, a selector is read before exactly if one is read after it, and it is the same one
exactly if no tag stands in front of the choices, of a list with filters, of a filter that is a
mapping, or of a list of arguments in a filter, or in front of a name that has something to say. -/
theorem tags_are_read_through_iff (value : Value) (proper : value.untagged.IsProper) :
    ((ofYaml? value).isSome = true ↔ (ofYaml? value.untagged).isSome = true) ∧
      (ofYaml? value = ofYaml? value.untagged ↔ ¬ TagHides value) := by
  by_cases mapping : value.IsMapping
  · rw [ofYaml?_of_isMapping mapping, Value.untagged_of_isMapping mapping, ofYaml?]
    refine ⟨Iff.rfl, ?_⟩
    rw [Option.some_inj, ← not_ne_iff, ofEntries_ne_iff proper]
  · have bare : ¬ value.untagged.IsMapping := mt (Value.isMapping_untagged_iff value).mp mapping
    rw [ofYaml?_of_not_isMapping mapping, ofYaml?_of_not_isMapping bare, Value.scalar?_untagged]
    exact ⟨Iff.rfl, iff_of_true rfl fun hides => mapping hides.isMapping⟩

/-- A selector with tags in places where they are read through. -/
def wellTagged : Value :=
  .tagged "css" (.mapping [
    (.text "selector", .tagged "css" (.text "td.size")),
    (.text "case", .mapping [(.tagged "css" (.text "span.free"), .tagged "factor" (.integer 0))]),
    (.text "filters", .sequence [
      .tagged "step" (.text "trim"),
      .mapping [(.text "name", .tagged "step" (.text "replace")),
        (.text "args", .sequence [.tagged "from" (.text "iB"), .text "B"])]])])

/-- Such tags hide nothing, and the selector is read with all that it says. -/
theorem wellTagged_is_read_through :
    wellTagged.untagged.IsProper ∧ ofYaml? wellTagged = ofYaml? wellTagged.untagged ∧
      ¬ TagHides wellTagged := by
  have proper : wellTagged.untagged.IsProper := by
    simp [wellTagged, untagged, Value.untaggedEntries, Value.untaggedItems, Value.IsProper,
      Value.AllProper, Value.ValuesProper, distinctKeys, Value.same]
  have same : ofYaml? wellTagged = ofYaml? wellTagged.untagged := rfl
  exact ⟨proper, same, (tags_are_read_through_iff wellTagged proper).2.mp same⟩

/-- A selector whose list of filters has a tag. -/
def taggedList : Value :=
  .mapping
    [(.text "selector", .text "td"), (.text "filters", .tagged "x" (.sequence [.text "trim"]))]

/-- With the tag, the selector has no filters. -/
theorem tagged_filters_are_left_out :
    ofYaml? taggedList = some { selector := "td" } ∧
      ofYaml? taggedList.untagged = some { selector := "td", filters := [{ name := "trim" }] } ∧
      ofYaml? taggedList ≠ ofYaml? taggedList.untagged :=
  ⟨rfl, rfl, by decide⟩

end Selector

end ReleaseFinder
