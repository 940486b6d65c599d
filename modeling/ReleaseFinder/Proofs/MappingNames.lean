import ReleaseFinder.Proofs.DictionaryPairs
import ReleaseFinder.Proofs.DocumentGrammar

/-!
# The names of a mapping

Different keys of a mapping may have one text: the number 1, the text "1", and both of these under a
tag. A dictionary has one place for them. `KeepsLast` says what stands there: what was read from the
last entry, in the order of the document, that has the text for a key and a value that counts. Texts
are only read from scalars, so a later list does not take the place of an earlier text; a list of
texts is read from any value; and where selectors are asked for, a value that is none is a fault,
and the first fault of the document is reported.
-/

namespace ReleaseFinder

open Yaml (Value Entries)

namespace Yaml

/-- The text that a scalar stands for, under any tags. -/
inductive Value.HasText : Value → String → Prop where
  | text (value : String) : HasText (.text value) value
  | integer (value : Int) : HasText (.integer value) (toString value)
  | float (value : Float) : HasText (.float value) (Decimal.shortest Decimal.documentStyle value)
  | yes : HasText (.bool true) "true"
  | no : HasText (.bool false) "false"
  | tagged (tag : String) (value : Value) (text : String) (inner : HasText value text) :
      HasText (.tagged tag value) text

/-- Scalars are read as the text that they stand for. -/
theorem Value.scalar?_eq_some_iff (value : Value) (text : String) :
    value.scalar? = some text ↔ value.HasText text := by
  constructor
  · intro read
    fun_induction scalar? value with
    | case1 value => exact Option.some.inj read ▸ .text value
    | case2 value => exact Option.some.inj read ▸ .integer value
    | case3 value => exact Option.some.inj read ▸ .float value
    | case4 value =>
      obtain rfl := Option.some.inj read
      cases value with
      | false => exact .no
      | true => exact .yes
    | case5 tag value inductionHypothesis => exact .tagged tag value text (inductionHypothesis read)
    | case6 => cases read
  · intro stands
    induction stands with
    | tagged tag value text inner inductionHypothesis => rwa [scalar?]
    | _ => rfl

/-- A value stands for a text exactly if it has one. -/
theorem Value.isScalar_iff_hasText (value : Value) :
    value.IsScalar ↔ ∃ text, value.HasText text := by
  simp only [isScalar_iff, Option.isSome_iff_exists, scalar?_eq_some_iff]

namespace Entries

open Value

/-- The entry is of a kind, and no entry after it is. -/
def IsLast (kind : Value × Value → Prop) (entries : Entries) (entry : Value × Value) : Prop :=
  ∃ before after, entries = before ++ entry :: after ∧ kind entry ∧ ∀ later ∈ after, ¬ kind later

/-- Under every name, the dictionary has what is read from the last entry with this text for a key
and a value that counts. It has no other names. -/
structure KeepsLast {α : Type} (dictionary : Dictionary α) (entries : Entries)
    (counts : Value → Prop) (reads : Value → α → Prop) : Prop where
  found : ∀ name result, dictionary.lookup? name = some result ↔
    ∃ entry, IsLast (fun entry => entry.1.HasText name ∧ counts entry.2) entries entry ∧
      reads entry.2 result
  named : ∀ name, name ∈ dictionary.names ↔ ∃ entry ∈ entries, entry.1.HasText name ∧ counts entry.2

section

variable {α : Type}

/-- The pair that is put into a dictionary for an entry. -/
def pair? (value? : Value → Option α) (entry : Value × Value) : Option (String × α) := do
  return (← entry.1.scalar?, ← value? entry.2)

/-- An entry gives a pair exactly if its key has the name as text and its value can be read. -/
theorem pair?_eq_some_iff (value? : Value → Option α) (entry : Value × Value) (name : String)
    (result : α) :
    pair? value? entry = some (name, result) ↔
      entry.1.HasText name ∧ value? entry.2 = some result := by
  simp [pair?, ← scalar?_eq_some_iff, Option.bind_eq_some_iff]

/-- A name comes among the pairs exactly if an entry has it and is read. -/
theorem mem_pairNames_iff (value? : Value → Option α) (entries : Entries) (name : String) :
    name ∈ (entries.filterMap (pair? value?)).map Prod.fst ↔
      ∃ entry ∈ entries, entry.1.HasText name ∧ ∃ result, value? entry.2 = some result := by
  simp only [List.mem_map, List.mem_filterMap, Prod.exists, exists_and_right, exists_eq_right]
  constructor
  · rintro ⟨result, key, held, member, read⟩
    obtain ⟨named, read⟩ := (pair?_eq_some_iff value? _ name result).mp read
    exact ⟨key, held, member, named, result, read⟩
  · rintro ⟨key, held, member, named, result, read⟩
    exact ⟨result, key, held, member, (pair?_eq_some_iff value? _ name result).mpr ⟨named, read⟩⟩

/-- A dictionary made of entries keeps the last that is read under each name. -/
theorem dictionary_keepsLast (value? : Value → Option α) (entries : Entries) :
    KeepsLast (entries.dictionary value?) entries
      (fun value => ∃ result, value? value = some result)
      (fun value result => value? value = some result) where
  found := by
    intro name result
    rw [dictionary, Dictionary.lookup?_ofList_iff]
    constructor
    · rintro ⟨before, after, split, others⟩
      obtain ⟨front, back, rfl, -, rest⟩ := List.filterMap_eq_append_iff.mp split
      obtain ⟨passed, entry, later, rfl, -, pair, rfl⟩ := List.filterMap_eq_cons_iff.mp rest
      obtain ⟨named, read⟩ := (pair?_eq_some_iff value? entry name result).mp pair
      have none :
          ∀ other ∈ later, ¬ (other.1.HasText name ∧ ∃ result, value? other.2 = some result) :=
        fun other member kind => others
          ((mem_pairNames_iff value? later name).mpr ⟨other, member, kind⟩)
      exact ⟨entry, ⟨front ++ passed, later, by simp, ⟨named, result, read⟩, none⟩, read⟩
    · rintro ⟨entry, ⟨before, after, rfl, ⟨named, -⟩, none⟩, read⟩
      have pair : pair? value? entry = some (name, result) :=
        (pair?_eq_some_iff value? entry name result).mpr ⟨named, read⟩
      refine ⟨before.filterMap (pair? value?), after.filterMap (pair? value?), ?_, ?_⟩
      · exact (List.filterMap_append ..).trans (congrArg _ (List.filterMap_cons_some pair))
      · intro later
        obtain ⟨other, member, kind⟩ := (mem_pairNames_iff value? after name).mp later
        exact none other member kind
  named := by
    intro name
    rw [dictionary, Dictionary.mem_names_ofList]
    exact mem_pairNames_iff value? entries name

/-- The last entry of a kind is the last of any kind that has the same entries. -/
theorem IsLast.of_iff {kind other : Value × Value → Prop} {entries : Entries}
    {entry : Value × Value} (last : IsLast kind entries entry)
    (same : ∀ member ∈ entries, kind member ↔ other member) :
    IsLast other entries entry := by
  obtain ⟨before, after, rfl, holds, none⟩ := last
  refine ⟨before, after, rfl, (same entry (by simp)).mp holds, fun later member => ?_⟩
  rw [← same later (by simp [member])]
  exact none later member

/-- What counts and what is read may be said in other words. -/
theorem KeepsLast.congr {dictionary : Dictionary α} {entries : Entries}
    {counts others : Value → Prop} {reads alike : Value → α → Prop}
    (keeps : KeepsLast dictionary entries counts reads)
    (sameCounts : ∀ entry ∈ entries, counts entry.2 ↔ others entry.2)
    (sameReads : ∀ value result, reads value result ↔ alike value result) :
    KeepsLast dictionary entries others alike where
  found := by
    intro name result
    have same : ∀ entry ∈ entries, entry.1.HasText name ∧ counts entry.2 ↔
        entry.1.HasText name ∧ others entry.2 :=
      fun entry member => and_congr_right' (sameCounts entry member)
    have lasts (entry : Value × Value) :
        IsLast (fun entry => entry.1.HasText name ∧ counts entry.2) entries entry ↔
          IsLast (fun entry => entry.1.HasText name ∧ others entry.2) entries entry :=
      ⟨fun last => last.of_iff same,
        fun last => last.of_iff fun entry member => (same entry member).symm⟩
    simp only [keeps.found, lasts, sameReads]
  named := by
    intro name
    rw [keeps.named]
    exact exists_congr fun entry => and_congr_right fun member =>
      and_congr_right' (sameCounts entry member)

/-- Only one dictionary keeps the last entries. -/
theorem KeepsLast.unique {dictionary other : Dictionary α} {entries : Entries}
    {counts : Value → Prop} {reads : Value → α → Prop}
    (keeps : KeepsLast dictionary entries counts reads)
    (too : KeepsLast other entries counts reads) : dictionary = other := by
  refine Dictionary.eq_of_lookup? fun name => Option.ext fun result => ?_
  rw [keeps.found, too.found]

/-- A dictionary under a name is made of the entries inside. -/
theorem dictionary_inside (value? : Value → Option α) (outer : Entries) (name : String) :
    ((outer.entries? name).map (dictionary value?)).getD .empty =
      (outer.inside name).dictionary value? := by
  rw [inside]
  cases outer.entries? name with
  | none => rfl
  | some entries => rfl

end

end Entries

end Yaml

open Yaml.Value Yaml.Entries

/-! ## Selectors by name -/

namespace Search

/-- An entry has no scalar for its name, or after it nothing that can be written for a selector. -/
inductive FieldFault : Value × Value → Fault → Prop where
  | unnamed (key value : Value) (bare : ¬ key.IsScalar) :
    FieldFault (key, value) .invalidFieldsFormat
  | unselectable (key value : Value) (name : String) (named : key.HasText name)
      (other : ¬ value.IsSelectable) : FieldFault (key, value) (.invalidSelector name)

/-- The demands on a part of a result are met if its key is a scalar and its value can be written
for a selector. -/
theorem allMet_fieldDemands_iff (entry : Value × Value) :
    AllMet (fieldDemands entry) ↔ entry.1.IsScalar ∧ entry.2.IsSelectable := by
  rw [fieldDemands, allMet_cons, allMet_cons]
  exact and_congr_right' (and_iff_left allMet_nil)

/-- The demands on an entry are unmet with its fault. -/
theorem firstUnmet_fieldDemands_iff (entry : Value × Value) (fault : Fault) :
    FirstUnmet (fieldDemands entry) fault ↔ FieldFault entry fault := by
  obtain ⟨key, value⟩ := entry
  rw [fieldDemands, firstUnmet_cons_iff, firstUnmet_cons_iff]
  constructor
  · rintro (⟨bare, rfl⟩ | ⟨scalar, ⟨other, rfl⟩ | ⟨-, none⟩⟩)
    · exact .unnamed key value bare
    · obtain ⟨name, named⟩ := (isScalar_iff_hasText key).mp scalar
      rw [(scalar?_eq_some_iff key name).mpr named]
      exact .unselectable key value name named other
    · exact absurd none (not_firstUnmet_nil fault)
  · intro faulty
    cases faulty with
    | unnamed _ _ bare => exact .inl ⟨bare, rfl⟩
    | unselectable _ _ name named other =>
      have own : key.scalar?.getD "" = name := by
        rw [(scalar?_eq_some_iff key name).mpr named, Option.getD_some]
      exact .inr ⟨(isScalar_iff_hasText key).mpr ⟨name, named⟩, .inl ⟨other, own ▸ rfl⟩⟩

/-- The fault of the first entry that has one is reported. -/
theorem fieldsOfEntries_eq_error_iff (entries : Entries) (fault : Fault) :
    fieldsOfEntries entries = .error fault ↔
      ∃ before entry after, entries = before ++ entry :: after ∧
        (∀ earlier ∈ before, earlier.1.IsScalar ∧ earlier.2.IsSelectable) ∧
          FieldFault entry fault := by
  rw [fieldsOfEntries_obeys entries fault, firstUnmet_flatMap_iff]
  simp only [allMet_fieldDemands_iff, firstUnmet_fieldDemands_iff]

/-- An entry that is read becomes a pair. -/
theorem pair?_of_field_eq_ok {entry : Value × Value} {pair : String × Selector}
    (read : (do
      let name ← orFault .invalidFieldsFormat entry.1.scalar?
      return (name, ← selectorFor name entry.2) : Reading (String × Selector)) = .ok pair) :
    pair? Selector.ofYaml? entry = some pair := by
  obtain ⟨name, named, read⟩ := bind_eq_ok_iff.mp read
  obtain ⟨selector, selected, read⟩ := bind_eq_ok_iff.mp read
  cases read
  rw [orFault_eq_ok_iff, scalar?_eq_some_iff] at named
  rw [selectorFor, orFault_eq_ok_iff] at selected
  exact (pair?_eq_some_iff ..).mpr ⟨named, selected⟩

/-- Where no fault is found, selectors are read as from any mapping. -/
theorem eq_dictionary_of_fieldsOfEntries {entries : Entries} {fields : Dictionary Selector}
    (read : fieldsOfEntries entries = .ok fields) :
    fields = entries.dictionary Selector.ofYaml? := by
  obtain ⟨pairs, each, made⟩ := bind_eq_ok_iff.mp read
  have kept : entries.filterMap (pair? Selector.ofYaml?) = pairs :=
    filterMap_eq_of_mapM_eq_ok pair?_of_field_eq_ok each
  cases made
  exact congrArg Dictionary.ofList kept.symm

/-- Selectors are read if no entry has a fault. -/
theorem fieldsOfEntries_succeeds_iff (entries : Entries) :
    (∃ fields, fieldsOfEntries entries = .ok fields) ↔
      ∀ entry ∈ entries, entry.1.IsScalar ∧ entry.2.IsSelectable := by
  rw [(fieldsOfEntries_obeys entries).succeeds_iff, allMet_flatMap]
  simp only [allMet_fieldDemands_iff]

/-- The parts of a result are read if each of them can be, and they are then the dictionary of their
selectors. -/
theorem fieldsOfEntries_eq_ok_iff (entries : Entries) (fields : Dictionary Selector) :
    fieldsOfEntries entries = .ok fields ↔
      (∀ entry ∈ entries, entry.1.IsScalar ∧ entry.2.IsSelectable) ∧
        fields = entries.dictionary Selector.ofYaml? := by
  constructor
  · intro read
    exact ⟨(fieldsOfEntries_succeeds_iff entries).mp ⟨fields, read⟩,
      eq_dictionary_of_fieldsOfEntries read⟩
  · rintro ⟨sound, rfl⟩
    obtain ⟨fields, read⟩ := (fieldsOfEntries_succeeds_iff entries).mpr sound
    rwa [← eq_dictionary_of_fieldsOfEntries read]

/-- Reading fails if an entry has a fault. -/
theorem fieldsOfEntries_fails_iff (entries : Entries) :
    (∃ fault, fieldsOfEntries entries = .error fault) ↔
      ∃ entry ∈ entries, ¬ entry.1.IsScalar ∨ ¬ entry.2.IsSelectable := by
  have fails : (∃ fault, fieldsOfEntries entries = .error fault) ↔
      ¬ ∃ fields, fieldsOfEntries entries = .ok fields := by
    cases fieldsOfEntries entries <;> simp
  rw [fails, fieldsOfEntries_succeeds_iff]
  simp only [not_forall, not_and_or, exists_prop]

end Search

/-- In a dictionary made of a mapping, the last entry that counts stays under each name, and there
are no other names. Where texts are asked for, an entry counts if its key and its value are scalars;
where lists of texts are, if its key is. Where selectors are asked for, all entries count: the
mapping is read exactly if every key is a scalar and every value can be written for a selector, and
otherwise the first entry that is amiss is reported. -/
theorem names_keep_their_last_entry :
    (∀ (outer : Entries) (name : String),
        KeepsLast (outer.textMap name) (outer.inside name) IsScalar HasText ∧
          KeepsLast (outer.listMap name) (outer.inside name) (fun _ => True)
            (fun value texts => value.scalars = texts)) ∧
      (∀ (entries : Entries) (fields : Dictionary Selector),
        Search.fieldsOfEntries entries = .ok fields ↔
        (∀ entry ∈ entries, entry.1.IsScalar ∧ entry.2.IsSelectable) ∧
          KeepsLast fields entries (fun _ => True)
            (fun value selector => Selector.ofYaml? value = some selector)) ∧
      ∀ entries : Entries,
        ((∃ fault, Search.fieldsOfEntries entries = .error fault) ↔
          ∃ entry ∈ entries, ¬ entry.1.IsScalar ∨ ¬ entry.2.IsSelectable) ∧
        ∀ fault, Search.fieldsOfEntries entries = .error fault ↔
          ∃ before entry after, entries = before ++ entry :: after ∧
            (∀ earlier ∈ before, earlier.1.IsScalar ∧ earlier.2.IsSelectable) ∧
            Search.FieldFault entry fault := by
  refine ⟨fun outer name => ⟨?texts, ?lists⟩, ?selectors, fun entries => ⟨?fails, ?first⟩⟩
  case texts =>
    rw [textMap, dictionary_inside]
    refine (dictionary_keepsLast scalar? _).congr (fun entry _ => ?_) fun value text => ?_
    · simp only [scalar?_eq_some_iff, isScalar_iff_hasText]
    · exact scalar?_eq_some_iff value text
  case lists =>
    rw [listMap, dictionary_inside]
    refine (dictionary_keepsLast (fun value => some value.scalars) _).congr
      (fun entry _ => ?_) fun _ _ => ?_
    · exact iff_of_true ⟨_, rfl⟩ trivial
    · exact Option.some_inj
  case selectors =>
    intro entries fields
    rw [Search.fieldsOfEntries_eq_ok_iff]
    refine and_congr_right fun sound => ?_
    have all : ∀ entry ∈ entries,
        (∃ selector, Selector.ofYaml? entry.2 = some selector) ↔ True := by
      intro entry member
      have selectable := (sound entry member).2
      rw [isSelectable_iff, Option.isSome_iff_exists] at selectable
      exact iff_of_true selectable trivial
    have keeps : KeepsLast (entries.dictionary Selector.ofYaml?) entries (fun _ => True)
        (fun value selector => Selector.ofYaml? value = some selector) :=
      (dictionary_keepsLast Selector.ofYaml? entries).congr all fun _ _ => Iff.rfl
    constructor
    · rintro rfl
      exact keeps
    · intro others
      exact others.unique keeps
  case fails => exact Search.fieldsOfEntries_fails_iff entries
  case first => exact Search.fieldsOfEntries_eq_error_iff entries

/-- Three keys with the text "1". The last value is no text, so the one before it stays. -/
example :
    (Entries.dictionary scalar?
      [(.integer 1, .text "first"), (.tagged "!t" (.text "1"), .bool true),
      (.text "1", .sequence [])]).lookup? "1" = some "true" := by
  decide

end ReleaseFinder
