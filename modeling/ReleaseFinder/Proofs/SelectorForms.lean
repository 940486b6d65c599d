import ReleaseFinder.Proofs.DefinitionForms
import ReleaseFinder.Proofs.DocumentShapes

/-!
# Normal forms of selectors

A selector is written as a record and read leniently from any value of a document. Reading passes
over what it does not know and lets numbers and truth values stand for texts, but none of this
touches what has been written: every name is written once, everything under it is a text, or a list
or mapping of texts, and what is left out is read as absent. So every selector is the reading of its
own written form, and a second normalization finds what the first one has found.
-/

namespace ReleaseFinder

namespace Yaml

mutual

/-- The value of a document that writes a tree. What has no value is written as null. -/
def Value.ofTree : Tree → Value
  | .null => .null
  | .bool value => .bool value
  | .integer value => .integer value
  | .float value => .float value
  | .text value => .text value
  | .list items => .sequence (Value.ofTrees items)
  | .record members => .mapping (Value.ofMembers members)
  | .unreadable => .null

/-- The values that write trees. -/
def Value.ofTrees : List Tree → List Value
  | [] => []
  | tree :: rest => Value.ofTree tree :: Value.ofTrees rest

/-- The entries that write the members of a record. -/
def Value.ofMembers : List (String × Tree) → Entries
  | [] => []
  | (name, tree) :: rest => (.text name, Value.ofTree tree) :: Value.ofMembers rest

end

namespace Value

/-- Items of a tree become items of a value one by one. -/
theorem ofTrees_eq_map (trees : List Tree) : ofTrees trees = trees.map ofTree := by
  induction trees with
  | nil => rfl
  | cons tree rest inductionHypothesis => rw [ofTrees, inductionHypothesis, List.map_cons]

/-- Members of a tree become entries under text keys one by one. -/
theorem ofMembers_eq_map (members : List (String × Tree)) :
    ofMembers members = members.map fun member => (.text member.1, ofTree member.2) := by
  induction members with
  | nil => rfl
  | cons member rest inductionHypothesis => rw [ofMembers, inductionHypothesis, List.map_cons]

/-- Items are passed on one by one if each is read as it was written. -/
theorem filterMap_ofTrees {α : Type} {write : α → Tree} {read : Value → Option α}
    (back : ∀ item, read (ofTree (write item)) = some item) (items : List α) :
    (ofTrees (items.map write)).filterMap read = items := by
  rw [ofTrees_eq_map, List.map_map, List.filterMap_map]
  have each : read ∘ ofTree ∘ write = some := funext back
  exact (congrArg (List.filterMap · items) each).trans List.filterMap_some

/-- What is not null is not written as null. -/
theorem ofTree_ne_null {tree : Tree} (free : tree.NullFree) : ofTree tree ≠ .null := by
  cases free <;> simp [ofTree]

end Value

namespace Entries

open Value

/-- What is held under a name is what the member with this name writes. -/
theorem held?_ofMembers (members : List (String × Tree)) (name : String) :
    held? (ofMembers members) name = (members.lookup name).map ofTree := by
  induction members with
  | nil => rfl
  | cons member rest inductionHypothesis =>
    obtain ⟨first, tree⟩ := member
    rw [Dictionary.lookup_pair, ofMembers, held?, List.find?_cons]
    by_cases asked : name = first
    · have found : (Value.text first).isText name = true :=
        (isText_eq_true_iff ..).mpr (asked ▸ rfl)
      rw [found, if_pos asked]
      rfl
    · have other : (Value.text first).isText name = false := by
        simpa [isText] using Ne.symm asked
      rw [other, if_neg asked]
      exact inductionHypothesis

/-- The slot's content, if anything, is what the entries give for its name. -/
def Holds (entries : Entries) (slot : Slot) : Prop :=
  entries.get? slot.name = slot.content.map ofTree

/-- The entries that write a record without null give what its slots hold. -/
theorem holds_members {slots : List Slot} (distinct : (slots.map Slot.name).Nodup)
    (free : (Tree.record (Slot.members slots)).NullFree) :
    slots.Forall (Holds (ofMembers (Slot.members slots))) := by
  rw [List.forall_iff_forall_mem]
  intro slot member
  have held := held?_ofMembers (Slot.members slots) slot.name
  rw [Slot.lookup_members distinct member] at held
  rw [Holds, get?, held]
  cases content : slot.content with
  | none => rfl
  | some tree =>
    have present :=
      ofTree_ne_null ((Slot.nullFree_record_iff slots).mp free slot member tree content)
    rw [Option.map_some]
    generalize ofTree tree = value at present
    cases value with
    | null => exact absurd rfl present
    | _ => rfl

namespace Holds

variable {entries : Entries} {name : String}

/-- A text that is always written is the text under its name. -/
theorem text? {value : String} (held : entries.Holds (Form.text.always name value)) :
    entries.text? name = some value := by
  have found : entries.get? name = some (.text value) := held
  rw [Entries.text?, found]
  rfl

/-- A text that is left out is absent. -/
theorem optionalText? {value : Option String}
    (held : entries.Holds (Form.text.ifGiven name value)) : entries.text? name = value := by
  have found : entries.get? name = (value.map Tree.text).map ofTree := held
  rw [Entries.text?, found]
  cases value with
  | none => rfl
  | some value => rfl

/-- Texts that are left out are none. -/
theorem texts {items : List String} (held : entries.Holds (Form.text.unlessEmpty name items)) :
    entries.texts name = items := by
  cases items with
  | nil =>
    have found : entries.get? name = none := held
    rw [Entries.texts, found]
    rfl
  | cons item rest =>
    have found : entries.get? name = some (ofTree (.list ((item :: rest).map .text))) := held
    have back (text : String) : (ofTree (.text text)).scalar? = some text := rfl
    have read : (ofTree (.list ((item :: rest).map .text))).scalars = item :: rest :=
      filterMap_ofTrees back (item :: rest)
    rw [Entries.texts, found, Option.map_some, Option.getD_some, read]

end Holds

end Entries

end Yaml

open Yaml Value

/-! ## Filters and selectors -/

/-- A filter is read from its written form. -/
theorem Filter.ofYaml?_ofTree (filter : Filter) :
    Filter.ofYaml? (ofTree filter.toTree) = some filter := by
  have free := filter.nullFree
  rw [Filter.toTree_eq] at free ⊢
  have names : (filter.slots.map Slot.name).Nodup := by
    simp [Filter.slots, Form.always, Form.unlessEmpty]
  obtain ⟨name, arguments⟩ := Entries.holds_members names free
  rw [ofTree, Filter.ofYaml?, name.text?, arguments.texts]
  rfl

namespace Selector

/-- Texts by path are read from their written form. -/
theorem dictionary_ofMembers (choices : Dictionary String) :
    Entries.dictionary scalar?
        (ofMembers (choices.entries.map fun entry => (entry.1, .text entry.2))) = choices := by
  have pairs : (ofMembers (choices.entries.map fun entry => (entry.1, Tree.text entry.2))).filterMap
      (fun entry => do return (← entry.1.scalar?, ← entry.2.scalar?)) = choices.entries := by
    rw [ofMembers_eq_map, List.map_map, List.filterMap_map]
    exact List.filterMap_some
  rw [Entries.dictionary, pairs, Dictionary.ofList_entries]

/-- A selector is read from its written form. -/
theorem ofYaml?_ofTree (selector : Selector) :
    Selector.ofYaml? (ofTree selector.toTree) = some selector := by
  have free := selector.nullFree
  rw [Selector.toTree_eq] at free ⊢
  have names : (selector.slots.map Slot.name).Nodup := by
    simp [Selector.slots, Form.always, Form.ifGiven]
  obtain ⟨path, text, attributeName, remove, choices, filters⟩ := Entries.holds_members names free
  have read : (Entries.entries? (ofMembers (Slot.members selector.slots)) "case").map
      (Entries.dictionary scalar?) = selector.choices := by
    have found : Entries.get? (ofMembers (Slot.members selector.slots)) "case" =
        (selector.choices.map (Dictionary.toTree .text)).map ofTree := choices
    rw [Entries.entries?, found]
    cases selector.choices with
    | none => rfl
    | some choices => exact congrArg some (dictionary_ofMembers choices)
  have listed : filtersNamed (ofMembers (Slot.members selector.slots)) "filters" =
      selector.filters := by
    have found : Entries.get? (ofMembers (Slot.members selector.slots)) "filters" =
        some (.sequence (ofTrees (selector.filters.map Filter.toTree))) := filters
    rw [filtersNamed, found]
    exact filterMap_ofTrees Filter.ofYaml?_ofTree selector.filters
  rw [ofTree, ofYaml?, ofEntries, path.text?, text.optionalText?, attributeName.optionalText?,
    remove.optionalText?, read, listed]
  rfl

/-- An entry that may be left out is written as a member that may be. -/
theorem ofMembers_member? {α : Type} (name : String) (write : α → Tree) (value : Option α) :
    ofMembers (member? name write value) =
      entry? name (value.map fun value => ofTree (write value)) := by
  cases value with
  | none => rfl
  | some value => rfl

/-- A filter is written as its record is. -/
theorem filterToYaml_eq (filter : Filter) : filterToYaml filter = ofTree filter.toTree := by
  obtain ⟨name, arguments⟩ := filter
  cases arguments with
  | nil => rfl
  | cons argument rest =>
    simp [filterToYaml, entry?, Filter.toTree, nonempty?, textsTree, ofTree, ofTrees_eq_map,
      ofMembers, Function.comp_def]

/-- A selector is written as its record is. -/
theorem toYaml_eq (selector : Selector) : selector.toYaml = ofTree selector.toTree := by
  have append (first second : List (String × Tree)) :
      ofMembers (first ++ second) = ofMembers first ++ ofMembers second := by
    simp only [ofMembers_eq_map, List.map_append]
  have choices (dictionary : Dictionary String) : ofTree (textMapTree dictionary) =
      .mapping (dictionary.entries.map fun choice => (.text choice.1, .text choice.2)) := by
    rw [textMapTree, Dictionary.toTree, ofTree, ofMembers_eq_map, List.map_map]
    rfl
  have filters : selector.filters.map filterToYaml =
      ofTrees (selector.filters.map Filter.toTree) := by
    rw [ofTrees_eq_map, List.map_map]
    exact List.map_congr_left fun filter _ => filterToYaml_eq filter
  rw [toTree, ofTree, append, append, append, append, append, ofMembers_member?, ofMembers_member?,
    ofMembers_member?, ofMembers_member?, toYaml, filters]
  simp only [choices]
  rfl

/-- Normalizing is done once. Every selector is the reading of its own written form, which is the
form of its record, so what is read from the written form of a normalized selector is this selector,
whatever value it was read from. The values that are read as selectors are the scalars and the
mappings, tagged or not. -/
theorem selectors_are_normalized_once :
    (∀ value : Value,
        ((ofYaml? value).bind fun selector => ofYaml? selector.toYaml) = ofYaml? value) ∧
      (∀ selector : Selector, ofYaml? selector.toYaml = some selector ∧
        selector.toYaml = ofTree selector.toTree) ∧
      ∀ value : Value, value.IsSelectable ↔ ∃ selector, ofYaml? value = some selector := by
  have back (selector : Selector) : ofYaml? selector.toYaml = some selector := by
    rw [toYaml_eq, ofYaml?_ofTree]
  refine ⟨?again, fun selector => ⟨back selector, toYaml_eq selector⟩, ?selectable⟩
  case again =>
    intro value
    cases ofYaml? value with
    | none => rfl
    | some selector => exact back selector
  case selectable =>
    intro value
    rw [isSelectable_iff, Option.isSome_iff_exists]

end Selector

end ReleaseFinder
