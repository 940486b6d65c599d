import Mathlib
import ReleaseFinder.Definition.Catalog
import ReleaseFinder.Proofs.DocumentGrammar

/-!
# Definitions of use

What validation promises of a definition, and what it says of any other. `Usable` lists what a
definition needs, `Reports` the one fault that is reported when something is lacking: blank fields
hide missing search fields, and these hide missing modes, but within such a kind nothing is left
out. Validation decides exactly this for every definition, wherever it is from. A file gives a
definition only if it is of use, and besides it then has a page to search, which reading alone
ensures.
-/

namespace ReleaseFinder

namespace Text

/-- A text is blank if trimming leaves nothing of it. What trimming leaves at the front is not
blank, so it stops at the first character that is none. -/
theorem blankText_iff (text : String) : blankText text = true ↔ trim text = "" := by
  have split := List.takeWhile_append_dropWhile (p := isBlank) (l := text.toList)
  have nothing : trim text = "" ↔ ∀ c ∈ text.toList.dropWhile isBlank, isBlank c = true := by
    rw [trim, ← String.toList_inj, String.toList_ofList, trimChars]
    simp
  rw [nothing, blankText, List.all_eq_true]
  constructor
  · intro blank c member
    exact blank c ((List.dropWhile_sublist isBlank).subset member)
  · intro blank c member
    rw [← split] at member
    rcases List.mem_append.mp member with before | after
    · exact List.mem_takeWhile_imp before
    · exact blank c after

end Text

/-- The names are exactly those among all that are concerned, in the same order. -/
structure Lists (all : List String) (concerned : String → Prop) (names : List String) : Prop where
  inOrder : names.Sublist all
  exact : ∀ name, name ∈ names ↔ name ∈ all ∧ concerned name

/-- There is only one such list, as long as nothing stands twice among all. -/
theorem Lists.unique {all names others : List String} {concerned : String → Prop}
    (distinct : all.Nodup) (lists : Lists all concerned names)
    (too : Lists all concerned others) : names = others := by
  have filtered (found : List String) (own : Lists all concerned found) :
      found = all.filter fun name => decide (name ∈ names) := by
    have members (name : String) : name ∈ found ↔ name ∈ names :=
      (own.exact name).trans (lists.exact name).symm
    have included : found.Sublist (all.filter fun name => decide (name ∈ names)) := by
      have kept := own.inOrder.filter fun name => decide (name ∈ names)
      rwa [List.filter_eq_self.mpr (by simp [members])] at kept
    have same : found.Perm (all.filter fun name => decide (name ∈ names)) := by
      refine (List.perm_ext_iff_of_nodup (distinct.sublist own.inOrder) (distinct.filter _)).mpr ?_
      intro name
      rw [List.mem_filter, decide_eq_true_eq, members]
      exact ⟨fun member => ⟨lists.inOrder.subset member, member⟩, And.right⟩
    exact included.eq_of_length same.length_eq
  rw [filtered names lists, filtered others too]

/-- Nothing is listed if nothing is concerned. -/
theorem Lists.eq_nil_iff {all names : List String} {concerned : String → Prop}
    (lists : Lists all concerned names) : names = [] ↔ ∀ name ∈ all, ¬ concerned name := by
  rw [List.eq_nil_iff_forall_not_mem]
  refine forall_congr' fun name => ?_
  rw [lists.exact, not_and]

/-- Some name is listed exactly if one of all the names is concerned. -/
theorem Lists.ne_nil_iff {all names : List String} {concerned : String → Prop}
    (lists : Lists all concerned names) : names ≠ [] ↔ ∃ name ∈ all, concerned name := by
  rw [ne_eq, lists.eq_nil_iff]
  push Not
  rfl

namespace Definition

/-- The field says nothing. -/
inductive LeavesBlank (definition : Definition) : String → Prop where
  | id (blank : Text.trim definition.id = "") : LeavesBlank definition "id"
  | name (blank : Text.trim definition.name = "") : LeavesBlank definition "name"
  | description (blank : Text.trim definition.description = "") :
    LeavesBlank definition "description"
  | language (blank : Text.trim definition.language = "") : LeavesBlank definition "language"
  | encoding (blank : Text.trim definition.encoding = "") : LeavesBlank definition "encoding"
  | links (blank : ∀ link ∈ definition.links, Text.trim link = "") : LeavesBlank definition "links"

/-- The part of a result is not looked for. -/
def LacksField (definition : Definition) (name : String) : Prop :=
  ∀ selector, definition.search.fields.lookup? name ≠ some selector

/-- The definition says what can be searched for, and this is something. -/
def DeclaresModes (definition : Definition) : Prop :=
  ∃ modes, definition.capabilities.modes = some modes ∧ modes.entries ≠ []

/-- The fields that must not be blank. -/
def requiredFields : List String :=
  ["id", "name", "description", "language", "encoding", "links"]

/-- What a definition needs to be of use. -/
structure Usable (definition : Definition) : Prop where
  id : Text.trim definition.id ≠ ""
  name : Text.trim definition.name ≠ ""
  description : Text.trim definition.description ≠ ""
  language : Text.trim definition.language ≠ ""
  encoding : Text.trim definition.encoding ≠ ""
  links : ∃ link ∈ definition.links, Text.trim link ≠ ""
  fields : ∀ name ∈ ["title", "size", "seeders"], ∃ selector,
    definition.search.fields.lookup? name = some selector
  modes : definition.DeclaresModes

/-- The fault that is reported of a definition. -/
inductive Reports (definition : Definition) : Fault → Prop where
  | blank (names : List String) (some : ∃ name ∈ requiredFields, definition.LeavesBlank name)
      (listed : Lists requiredFields definition.LeavesBlank names) :
      Reports definition (.blankFields names)
  | missing (names : List String) (filled : ∀ name ∈ requiredFields, ¬ definition.LeavesBlank name)
      (some : ∃ name ∈ ["title", "size", "seeders"], definition.LacksField name)
      (listed : Lists ["title", "size", "seeders"] definition.LacksField names) :
      Reports definition (.missingSearchFields names)
  | modes (filled : ∀ name ∈ requiredFields, ¬ definition.LeavesBlank name)
      (found : ∀ name ∈ ["title", "size", "seeders"], ¬ definition.LacksField name)
      (none : ¬ definition.DeclaresModes) : Reports definition .missingModes

/-- The blank fields of a definition, told one by one. -/
theorem leavesBlank_iff (definition : Definition) (name : String) :
    definition.LeavesBlank name ↔
      Text.trim definition.id = "" ∧ "id" = name ∨
        Text.trim definition.name = "" ∧ "name" = name ∨
        Text.trim definition.description = "" ∧ "description" = name ∨
        Text.trim definition.language = "" ∧ "language" = name ∨
        Text.trim definition.encoding = "" ∧ "encoding" = name ∨
        (∀ link ∈ definition.links, Text.trim link = "") ∧ name = "links" := by
  constructor
  · intro blank
    cases blank <;> simp_all
  · rintro (⟨blank, rfl⟩ | ⟨blank, rfl⟩ | ⟨blank, rfl⟩ | ⟨blank, rfl⟩ | ⟨blank, rfl⟩ | ⟨blank, rfl⟩)
    · exact .id blank
    · exact .name blank
    · exact .description blank
    · exact .language blank
    · exact .encoding blank
    · exact .links blank

/-- The blank fields that validation finds are those that say nothing. -/
theorem mem_blankFields_iff (definition : Definition) (name : String) :
    name ∈ definition.blankFields ↔ definition.LeavesBlank name := by
  rw [leavesBlank_iff]
  simp only [blankFields, List.mem_append, List.mem_map, List.mem_filter, Text.blankText_iff,
    List.all_eq_true, List.mem_cons, List.not_mem_nil, or_false, List.mem_ite_nil_right,
    or_and_right, exists_or, and_assoc, exists_eq_left, or_assoc]

/-- The fields are asked in the order in which blank ones are reported. -/
theorem blankFields_lists (definition : Definition) :
    Lists requiredFields definition.LeavesBlank definition.blankFields := by
  have inOrder : definition.blankFields.Sublist
      (["id", "name", "description", "language", "encoding"] ++ ["links"]) := by
    refine List.Sublist.append (List.filter_sublist.map Prod.fst) ?_
    split
    · exact List.Sublist.refl _
    · exact List.nil_sublist _
  refine ⟨inOrder, fun name => ?_⟩
  rw [← mem_blankFields_iff]
  exact ⟨fun member => ⟨inOrder.subset member, member⟩, And.right⟩

/-- A field is lacking if no selector has its name. -/
theorem lacksField_iff (definition : Definition) (name : String) :
    definition.LacksField name ↔ definition.search.fields.contains name = false := by
  rw [LacksField, Dictionary.contains, Option.isSome_eq_false_iff, Option.isNone_iff_eq_none,
    Option.eq_none_iff_forall_ne_some]

/-- The missing fields are listed among the required ones, in their order. -/
theorem missingSearchFields_lists (definition : Definition) :
    Lists requiredSearchFields definition.LacksField definition.missingSearchFields where
  inOrder := List.filter_sublist
  exact := by
    intro name
    rw [missingSearchFields, List.mem_filter, lacksField_iff, Bool.not_eq_true']

/-- A definition has modes exactly if it declares some. -/
theorem hasModes_iff (definition : Definition) :
    definition.hasModes = true ↔ definition.DeclaresModes := by
  rw [hasModes, DeclaresModes]
  cases definition.capabilities.modes with
  | none => simp
  | some modes => simp [Dictionary.isEmpty]

/-- Each kind of fault is reported only if there is none of the kinds before it. -/
theorem fault?_eq_some_iff (definition : Definition) (fault : Fault) :
    definition.fault? = some fault ↔ definition.Reports fault := by
  have blank := definition.blankFields_lists
  have missing := definition.missingSearchFields_lists
  rw [fault?]
  simp only [Bool.not_eq_true', List.isEmpty_eq_false_iff]
  constructor
  · intro reported
    split at reported
    · next inhabited =>
      cases reported
      exact .blank _ (blank.ne_nil_iff.mp inhabited) blank
    · next noBlank =>
      have filled := blank.eq_nil_iff.mp (not_not.mp noBlank)
      split at reported
      · next inhabited =>
        cases reported
        exact .missing _ filled (missing.ne_nil_iff.mp inhabited) missing
      · next noMissing =>
        split at reported
        · next noModes =>
          cases reported
          refine .modes filled (missing.eq_nil_iff.mp (not_not.mp noMissing)) ?_
          rw [← hasModes_iff, noModes]
          exact Bool.false_ne_true
        · cases reported
  · intro reports
    cases reports with
    | blank names concerned listed =>
      obtain rfl := blank.unique (by decide) listed
      rw [if_pos (blank.ne_nil_iff.mpr concerned)]
    | missing names filled concerned listed =>
      obtain rfl := missing.unique (by decide) listed
      rw [if_neg (not_not.mpr (blank.eq_nil_iff.mpr filled)),
        if_pos (missing.ne_nil_iff.mpr concerned)]
    | modes filled found none =>
      have noModes : definition.hasModes = false := by
        rwa [← hasModes_iff, Bool.not_eq_true] at none
      rw [if_neg (not_not.mpr (blank.eq_nil_iff.mpr filled)),
        if_neg (not_not.mpr (missing.eq_nil_iff.mpr found)), if_pos noModes]

/-- What a definition needs is that there is nothing to report of it. -/
theorem usable_iff (definition : Definition) :
    definition.Usable ↔ (∀ name ∈ requiredFields, ¬ definition.LeavesBlank name) ∧
      (∀ name ∈ requiredSearchFields, ¬ definition.LacksField name) ∧ definition.DeclaresModes := by
  have found (name : String) : ¬ definition.LacksField name ↔
      ∃ selector, definition.search.fields.lookup? name = some selector := by
    rw [LacksField]
    push Not
    rfl
  simp only [found]
  constructor
  · intro usable
    refine ⟨?_, usable.fields, usable.modes⟩
    intro name _ blank
    cases blank with
    | id blank => exact usable.id blank
    | name blank => exact usable.name blank
    | description blank => exact usable.description blank
    | language blank => exact usable.language blank
    | encoding blank => exact usable.encoding blank
    | links blank =>
      obtain ⟨link, member, text⟩ := usable.links
      exact text (blank link member)
  · rintro ⟨filled, fields, modes⟩
    have filled (name : String) (blank : definition.LeavesBlank name) : False := by
      have listed := (definition.mem_blankFields_iff name).mpr blank
      exact filled name (definition.blankFields_lists.inOrder.subset listed) blank
    refine ⟨fun blank => filled _ (.id blank), fun blank => filled _ (.name blank),
      fun blank => filled _ (.description blank), fun blank => filled _ (.language blank),
      fun blank => filled _ (.encoding blank), ?_, fields, modes⟩
    by_contra none
    push Not at none
    exact filled _ (.links none)

/-- Nothing is reported of the definitions of use, and of no other. -/
theorem fault?_eq_none_iff (definition : Definition) :
    definition.fault? = none ↔ definition.Usable := by
  rw [usable_iff, ← definition.blankFields_lists.eq_nil_iff,
    ← definition.missingSearchFields_lists.eq_nil_iff, ← hasModes_iff, fault?]
  simp only [Bool.not_eq_true', List.isEmpty_eq_false_iff]
  split_ifs <;> simp_all

/-- What is searched for is read with a page at least. -/
theorem search_paths_ne_nil {found : Option Yaml.Value} {search : Search}
    (read : Search.ofYaml found = .ok search) : search.paths ≠ [] := by
  cases found with
  | none => cases read
  | some value =>
    cases value with
    | mapping entries =>
      rw [Search.ofYaml, Search.ofEntries_eq] at read
      obtain ⟨paths, pages, read⟩ := bind_eq_ok_iff.mp read
      obtain ⟨rows, _, read⟩ := bind_eq_ok_iff.mp read
      obtain ⟨fields, _, read⟩ := bind_eq_ok_iff.mp read
      cases read
      rw [Search.pages, bind_eq_ok_iff] at pages
      obtain ⟨listed, _, kept⟩ := pages
      cases listed with
      | nil => cases kept
      | cons path rest =>
        cases kept
        exact List.cons_ne_nil path rest
    | _ => cases read

/-- The search of a definition is read from its document. -/
theorem search_of_ofText {text : String} {definition : Definition}
    (read : ofText text = .ok definition) :
    ∃ found, Search.ofYaml found = .ok definition.search := by
  obtain ⟨document, _, read⟩ := bind_eq_ok_iff.mp read
  obtain ⟨root, _, read⟩ := bind_eq_ok_iff.mp read
  obtain ⟨search, found, read⟩ := bind_eq_ok_iff.mp read
  refine ⟨_, found.trans ?_⟩
  iterate 11 obtain ⟨_, _, read⟩ := bind_eq_ok_iff.mp read
  cases read
  rfl

/-- Validation returns the definition if it is of use. -/
theorem validated_eq_ok_iff (definition result : Definition) :
    definition.validated = .ok result ↔ definition.Usable ∧ result = definition := by
  rw [← fault?_eq_none_iff, validated]
  cases definition.fault? <;> simp [eq_comm]

/-- It fails with what is reported of the definition. -/
theorem validated_eq_error_iff (definition : Definition) (fault : Fault) :
    definition.validated = .error fault ↔ definition.Reports fault := by
  rw [← fault?_eq_some_iff, validated]
  cases definition.fault? <;> simp

/-- A text gives a definition of use if it is read as one. -/
theorem ofValidText_eq_ok_iff (text : String) (definition : Definition) :
    ofValidText text = .ok definition ↔ ofText text = .ok definition ∧ definition.Usable := by
  simp only [ofValidText, bind_eq_ok_iff, validated_eq_ok_iff]
  constructor
  · rintro ⟨parsed, read, usable, rfl⟩
    exact ⟨read, usable⟩
  · rintro ⟨read, usable⟩
    exact ⟨definition, read, usable, rfl⟩

end Definition

/-- A file gives a definition of use if it can be read and its text gives one. -/
theorem DefinitionFile.definition_eq_ok_iff (file : DefinitionFile) (definition : Definition) :
    file.definition = .ok definition ↔
      ∃ text, file.content = .ok text ∧ Definition.ofText text = .ok definition ∧
        definition.Usable := by
  simp only [← Definition.ofValidText_eq_ok_iff]
  rw [DefinitionFile.definition]
  cases file.content with
  | error problem => simp
  | ok text => cases read : Definition.ofValidText text <;> simp [Except.mapError, read]

/-- A file gives just those definitions that can be read from its text and are of use, and each of
them has a page to search. Whatever a definition is from, validation passes it exactly if it is of
use, and otherwise reports the first kind of fault, with everything of this kind in order and
nothing of the others. -/
theorem validation_is_exact :
    (∀ (file : DefinitionFile) (definition : Definition),
      (file.definition = .ok definition ↔
        ∃ text, file.content = .ok text ∧ Definition.ofText text = .ok definition ∧
          definition.Usable) ∧
        (file.definition = .ok definition → definition.search.paths ≠ [])) ∧
      ∀ definition : Definition,
        (∀ result, definition.validated = .ok result ↔ definition.Usable ∧ result = definition) ∧
          ∀ fault, definition.validated = .error fault ↔ definition.Reports fault := by
  refine ⟨?files,
    fun definition => ⟨definition.validated_eq_ok_iff, definition.validated_eq_error_iff⟩⟩
  case files =>
    intro file definition
    refine ⟨file.definition_eq_ok_iff definition, fun given => ?_⟩
    obtain ⟨text, _, read, _⟩ := (file.definition_eq_ok_iff definition).mp given
    obtain ⟨found, search⟩ := Definition.search_of_ofText read
    exact Definition.search_paths_ne_nil search

/-- A definition with two blank fields that looks for nothing. -/
def sparse : Definition :=
  { id := "s", name := " ", description := "d", language := "l", access := .everyone,
    encoding := "e", links := ["", "\t"], capabilities := {},
    search := { paths := [], rows := {}, fields := .empty } }

/-- Only the blank fields are reported, in the order in which they are asked for. -/
theorem sparse_reports_blank_fields :
    sparse.validated = .error (.blankFields ["name", "links"]) ∧
      sparse.Reports (.blankFields ["name", "links"]) := by
  have failed : sparse.validated = .error (.blankFields ["name", "links"]) := rfl
  exact ⟨failed, ((validation_is_exact.2 sparse).2 _).mp failed⟩

end ReleaseFinder
