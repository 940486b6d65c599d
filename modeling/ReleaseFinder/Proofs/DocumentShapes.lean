import Mathlib
import ReleaseFinder.Definition.Selector

/-!
# Shapes of document values

What a value of a document is, apart from how it is read: a scalar, a mapping, or what may be
written for a selector, each of them under any tags. `Gives` is the entry that counts for a name:
the first one whose key is this very text, unless its value is null. The lenient readers return
something exactly for these.
-/

namespace ReleaseFinder.Yaml

namespace Value

/-- The value stands for a text. -/
inductive IsScalar : Value → Prop where
  | text (value : String) : IsScalar (.text value)
  | bool (value : Bool) : IsScalar (.bool value)
  | integer (value : Int) : IsScalar (.integer value)
  | float (value : Float) : IsScalar (.float value)
  | tagged (tag : String) (value : Value) (inner : IsScalar value) : IsScalar (.tagged tag value)

/-- The value is a mapping under any tags. -/
inductive IsMapping : Value → Prop where
  | mapping (entries : Entries) : IsMapping (.mapping entries)
  | tagged (tag : String) (value : Value) (inner : IsMapping value) : IsMapping (.tagged tag value)

/-- The value is a mapping without a tag. -/
def IsPlainMapping (value : Value) : Prop :=
  ∃ entries, value = .mapping entries

/-- The value is a sequence without a tag. -/
def IsPlainSequence (value : Value) : Prop :=
  ∃ items, value = .sequence items

/-- The value can be written for a selector. -/
def IsSelectable (value : Value) : Prop :=
  value.IsScalar ∨ value.IsMapping

/-- The entries of a value, none if it is no mapping. -/
def inner (value : Value) : Entries :=
  value.entries?.getD []

/-- What has not the form of a mapping is no plain mapping. -/
theorem not_isPlainMapping {value : Value} (other : ∀ entries, value ≠ .mapping entries) :
    ¬ value.IsPlainMapping := by
  rintro ⟨entries, same⟩
  exact other entries same

/-- What has not the form of a sequence is no plain sequence. -/
theorem not_isPlainSequence {value : Value} (other : ∀ items, value ≠ .sequence items) :
    ¬ value.IsPlainSequence := by
  rintro ⟨items, same⟩
  exact other items same

/-- A tag does not matter for standing for a text. -/
theorem isScalar_tagged_iff (tag : String) (value : Value) :
    IsScalar (.tagged tag value) ↔ value.IsScalar := by
  constructor
  · intro scalar
    cases scalar with
    | tagged _ _ inner => exact inner
  · exact IsScalar.tagged tag value

/-- A tag does not matter for being a mapping. -/
theorem isMapping_tagged_iff (tag : String) (value : Value) :
    IsMapping (.tagged tag value) ↔ value.IsMapping := by
  constructor
  · intro mapping
    cases mapping with
    | tagged _ _ inner => exact inner
  · exact IsMapping.tagged tag value

/-- The scalars are the values that have a text. -/
theorem isScalar_iff (value : Value) : value.IsScalar ↔ value.scalar?.isSome = true := by
  fun_induction scalar? value with
  | case1 value => exact iff_of_true (.text value) rfl
  | case2 value => exact iff_of_true (.integer value) rfl
  | case3 value => exact iff_of_true (.float value) rfl
  | case4 value => exact iff_of_true (.bool value) rfl
  | case5 tag value inductionHypothesis => rw [isScalar_tagged_iff, inductionHypothesis]
  | case6 value =>
    refine iff_of_false (fun scalar => ?_) (by simp)
    cases scalar <;> simp_all

/-- The mappings are the values that have entries. -/
theorem isMapping_iff (value : Value) : value.IsMapping ↔ value.entries?.isSome = true := by
  rw [entries?]
  fun_induction withoutTags value with
  | case1 tag value inductionHypothesis => rw [isMapping_tagged_iff, inductionHypothesis]
  | case2 value untagged =>
    cases value with
    | mapping entries => exact iff_of_true (.mapping entries) rfl
    | tagged tag value => exact absurd rfl (untagged tag value)
    | _ => exact iff_of_false (fun mapping => by cases mapping) (by simp)

/-- The values that can be written for a selector are those that are read as one. -/
theorem isSelectable_iff (value : Value) :
    value.IsSelectable ↔ (Selector.ofYaml? value).isSome = true := by
  fun_induction Selector.ofYaml? value with
  | case1 entries => exact iff_of_true (.inr (.mapping entries)) rfl
  | case2 tag value inductionHypothesis =>
    rw [IsSelectable, isScalar_tagged_iff, isMapping_tagged_iff, ← inductionHypothesis,
      IsSelectable]
  | case3 value notMapping untagged =>
    have none : ¬ value.IsMapping := by
      intro mapping
      cases mapping with
      | mapping entries => exact notMapping entries rfl
      | tagged tag value => exact untagged tag value rfl
    rw [Option.isSome_map, ← isScalar_iff]
    exact or_iff_left none

end Value

namespace Entries

open Value

/-- The value that counts for a name. -/
inductive Gives (name : String) : Entries → Value → Prop where
  | here (value : Value) (rest : Entries) (real : value ≠ .null) :
      Gives name ((.text name, value) :: rest) value
  | later (key held value : Value) (rest : Entries) (other : key ≠ .text name)
      (found : Gives name rest value) : Gives name ((key, held) :: rest) value

/-- Some value counts for the name. -/
def Has (entries : Entries) (name : String) : Prop :=
  ∃ value, entries.Gives name value

/-- The value that counts for the name is of a kind. -/
def HasA (kind : Value → Prop) (entries : Entries) (name : String) : Prop :=
  ∃ value, entries.Gives name value ∧ kind value

/-- The entries of the mapping that counts for a name. -/
def inside (entries : Entries) (name : String) : Entries :=
  (entries.entries? name).getD []

/-- The items of the sequence that counts for a name. -/
def items (entries : Entries) (name : String) : List Value :=
  match entries.get? name with
  | some (.sequence items) => items
  | _ => []

/-- A key is taken for a name if it is the text of the name, without a tag. -/
theorem isText_eq_true_iff (name : String) (key : Value) :
    key.isText name = true ↔ key = .text name := by
  cases key <;> simp [isText]

/-- The entry in front is looked at before the others. -/
theorem get?_cons (name : String) (key held : Value) (rest : Entries) :
    get? ((key, held) :: rest) name =
      if key.isText name then (match held with | .null => none | value => some value)
      else rest.get? name := by
  rw [get?, held?, List.find?_cons]
  cases key.isText name with
  | true => cases held <;> rfl
  | false => rfl

/-- Looking a name up finds the value that counts for it. -/
theorem get?_eq_some_iff (entries : Entries) (name : String) (value : Value) :
    entries.get? name = some value ↔ entries.Gives name value := by
  induction entries with
  | nil =>
    refine iff_of_false (by simp [get?, held?]) fun gives => ?_
    cases gives
  | cons entry rest inductionHypothesis =>
    obtain ⟨key, held⟩ := entry
    rw [get?_cons]
    by_cases asked : key = .text name
    · subst asked
      rw [if_pos ((isText_eq_true_iff name _).mpr rfl)]
      constructor
      · intro found
        cases held with
        | null => cases found
        | _ =>
          obtain rfl := Option.some.inj found
          exact .here _ rest (by simp)
      · intro gives
        cases gives with
        | here _ _ real =>
          cases value with
          | null => exact absurd rfl real
          | _ => rfl
        | later _ _ _ _ other => exact absurd rfl other
    · rw [if_neg (mt (isText_eq_true_iff name key).mp asked), inductionHypothesis]
      constructor
      · exact .later key held value rest asked
      · intro gives
        cases gives with
        | here => exact absurd rfl asked
        | later _ _ _ _ _ found => exact found

/-- One value at most counts for a name. -/
theorem Gives.unique {entries : Entries} {name : String} {value other : Value}
    (gives : entries.Gives name value) (too : entries.Gives name other) : value = other := by
  rw [← get?_eq_some_iff] at gives too
  exact Option.some.inj (gives.symm.trans too)

/-- Some value counts for a name exactly if a lookup finds one. -/
theorem has_iff (entries : Entries) (name : String) :
    entries.Has name ↔ (entries.get? name).isSome = true := by
  simp only [Has, ← get?_eq_some_iff, Option.isSome_iff_exists]

/-- What is found under a name decides of what kind it is. -/
theorem hasA_iff_of_get? {entries : Entries} {name : String} {value : Value}
    (found : entries.get? name = some value) (kind : Value → Prop) :
    entries.HasA kind name ↔ kind value := by
  have gives := (get?_eq_some_iff entries name value).mp found
  constructor
  · rintro ⟨other, too, holds⟩
    exact gives.unique too ▸ holds
  · intro holds
    exact ⟨value, gives, holds⟩

/-- Under a name without a value there is nothing of any kind. -/
theorem not_hasA_of_get? {entries : Entries} {name : String} (none : entries.get? name = none)
    (kind : Value → Prop) : ¬ entries.HasA kind name := by
  rintro ⟨value, gives, _⟩
  rw [← get?_eq_some_iff, none] at gives
  cases gives

/-- A scalar under a name is a text under it. -/
theorem hasScalar_iff (entries : Entries) (name : String) :
    entries.HasA IsScalar name ↔ (entries.text? name).isSome = true := by
  rw [text?]
  cases found : entries.get? name with
  | none => simpa using not_hasA_of_get? found IsScalar
  | some value =>
    rw [hasA_iff_of_get? found, isScalar_iff]
    rfl

/-- The mapping that a lookup finds has the entries inside the name. -/
theorem inside_of_get? {entries inner : Entries} {name : String}
    (found : entries.get? name = some (.mapping inner)) : entries.inside name = inner := by
  simp [inside, entries?, found]

/-- The sequence that a lookup finds has the items of the name. -/
theorem items_of_get? {entries : Entries} {name : String} {items : List Value}
    (found : entries.get? name = some (.sequence items)) : entries.items name = items := by
  simp [Entries.items, found]

end Entries

end ReleaseFinder.Yaml
