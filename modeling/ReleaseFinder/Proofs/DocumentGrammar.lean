import Mathlib
import ReleaseFinder.Proofs.Demands
import ReleaseFinder.Proofs.DocumentShapes

/-!
# The grammar of definition documents

Which documents are definitions, and what is reported of the others. `Definition.demands` lists
everything that is asked of a document, in order, each demand with its fault; reading a document
obeys this list. So a document is a definition exactly when it meets all of them, and the fault of
any other document is the one of the first demand that it does not meet, whatever else is wrong with
it.

Tags are looked through where a scalar, a selector, a setting or the document itself is asked for.
Where a part has to be a mapping or a sequence that is taken apart, a tagged one is none.
-/

namespace ReleaseFinder

open Yaml (Value Entries)
open Yaml.Value (IsScalar IsSelectable IsPlainMapping IsPlainSequence)
open Yaml.Entries (HasA hasA_iff_of_get? not_hasA_of_get? has_iff hasScalar_iff inside_of_get?
  items_of_get?)

/-- Demands on a part that may be left out. -/
def whenGiven (entries : Entries) (name : String) (demands : List Demand) : List Demand :=
  demands.map fun demand => ⟨entries.Has name → demand.holds, demand.fault⟩

/-- A part that is there has to meet the demands. -/
theorem whenGiven_of_get? {entries : Entries} {name : String} {value : Value}
    (found : entries.get? name = some value) (demands : List Demand) :
    whenGiven entries name demands = demands := by
  have there : entries.Has name := (has_iff entries name).mpr (by simp [found])
  simp [whenGiven, there]

/-- A part that is left out meets all demands. -/
theorem allMet_whenGiven {entries : Entries} {name : String} (none : entries.get? name = none)
    (demands : List Demand) : AllMet (whenGiven entries name demands) := by
  intro demand member
  obtain ⟨asked, _, rfl⟩ := List.mem_map.mp member
  intro there
  rw [has_iff, none] at there
  cases there

/-- A part that may be left out is read only if it is there. -/
theorem optionalPart_obeys {α : Type} {read : Value → Reading α} {demands : List Demand}
    (entries : Entries) (name : String)
    (obeys : ∀ value, entries.get? name = some value → Obeys demands (read value)) :
    Obeys (whenGiven entries name demands)
      (Definition.optionalPart read (entries.get? name)) := by
  cases found : entries.get? name with
  | none => exact obeys_ok (allMet_whenGiven found demands) _
  | some value =>
    rw [whenGiven_of_get? found]
    exact (obeys value found).bind_pure some

/-- Only what can be written for a selector is read as one. -/
theorem selectorFor_obeys (name : String) (value : Value) :
    Obeys [⟨value.IsSelectable, .invalidSelector name⟩] (selectorFor name value) :=
  obeys_orFault _ value.isSelectable_iff

/-! ## Search -/

/-- A page of results is written as its path, or as a mapping that has one. -/
def SearchPath.IsPage (value : Value) : Prop :=
  value.IsScalar ∨ ∃ entries, value = .mapping entries ∧ HasA IsScalar entries "path"

/-- There is a single path, or a list of pages that is not empty. -/
def Search.HasPages (search : Entries) : Prop :=
  search.HasA IsScalar "path" ∨
    search.items "paths" ≠ [] ∧ ∀ item ∈ search.items "paths", SearchPath.IsPage item

/-- What is asked of a part of a result: a scalar for its name, then something for its selector. -/
def Search.fieldDemands (field : Value × Value) : List Demand :=
  [⟨field.1.IsScalar, .invalidFieldsFormat⟩,
    ⟨field.2.IsSelectable, .invalidSelector (field.1.scalar?.getD "")⟩]

/-- What is asked of the entries of the part about the search. -/
def Search.entryDemands (search : Entries) : List Demand :=
  [⟨HasPages search, .missingSearchPath⟩,
    ⟨search.Has "rows", .missingRowsSelector⟩,
    ⟨search.HasA IsSelectable "rows", .invalidSelector "rows"⟩,
    ⟨search.Has "fields", .missingFields⟩,
    ⟨search.HasA IsPlainMapping "fields", .invalidFieldsFormat⟩] ++
    (search.inside "fields").flatMap fieldDemands

/-- What is asked of the part about the search. -/
def Search.demands (root : Entries) : List Demand :=
  [⟨root.Has "search", .missingSearchPath⟩,
    ⟨root.HasA IsPlainMapping "search", .notMapping "search"⟩] ++
    entryDemands (root.inside "search")

namespace SearchPath

/-- A mapping is a page of results if it has a path. -/
theorem isPage_mapping_iff (entries : Entries) :
    IsPage (.mapping entries) ↔ entries.HasA IsScalar "path" := by
  constructor
  · rintro (scalar | ⟨_, same, path⟩)
    · cases scalar
    · cases same
      exact path
  · intro path
    exact .inr ⟨entries, rfl, path⟩

/-- Only a page of results is read as one. -/
theorem ofYaml_obeys (value : Value) :
    Obeys [⟨IsPage value, .missingSearchPath⟩] (ofYaml value) := by
  cases value with
  | mapping entries =>
    exact (obeys_orFault _
      ((isPage_mapping_iff entries).trans (hasScalar_iff entries "path"))).bind_pure _
  | _ =>
    rw [ofYaml]
    · refine obeys_orFault _ ?_
      rw [Option.isSome_map, ← Value.isScalar_iff, IsPage]
      refine or_iff_left ?_
      rintro ⟨entries, same, _⟩
      cases same
    · intro entries same
      cases same

/-- A list of pages is read as long as every item is a page. -/
theorem mapM_obeys (items : List Value) :
    Obeys (items.flatMap fun item => [⟨IsPage item, .missingSearchPath⟩]) (items.mapM ofYaml) :=
  obeys_mapM items fun item _ => ofYaml_obeys item

/-- Without a single path, the pages are those of the list. -/
theorem listOfEntries_of_no_path {search : Entries} (none : search.text? "path" = none) :
    listOfEntries search = (search.items "paths").mapM ofYaml := by
  rw [listOfEntries, none, Yaml.Entries.items]
  cases search.get? "paths" with
  | none => rfl
  | some value => cases value <;> rfl

end SearchPath

namespace Search

/-- The pages are read, one at least, if they are there. -/
theorem hasPages_iff (search : Entries) :
    HasPages search ↔ ∃ paths, SearchPath.listOfEntries search = .ok paths ∧ paths ≠ [] := by
  rw [HasPages, hasScalar_iff]
  cases single : search.text? "path" with
  | some path =>
    refine iff_of_true (.inl rfl) ⟨[{ path }], ?_, List.cons_ne_nil _ _⟩
    rw [SearchPath.listOfEntries, single]
  | none =>
    have good : AllMet ((search.items "paths").flatMap fun item =>
        [⟨SearchPath.IsPage item, .missingSearchPath⟩]) ↔
          ∀ item ∈ search.items "paths", SearchPath.IsPage item := by
      simp [allMet_flatMap, allMet_cons, allMet_nil]
    rw [SearchPath.listOfEntries_of_no_path single, ← good,
      ← (SearchPath.mapM_obeys _).succeeds_iff]
    constructor
    · rintro (impossible | ⟨inhabited, paths, read⟩)
      · cases impossible
      · refine ⟨paths, read, ?_⟩
        rintro rfl
        exact inhabited (List.eq_nil_of_length_eq_zero (forall₂_of_mapM_eq_ok read).length_eq)
    · rintro ⟨paths, read, inhabited⟩
      refine .inr ⟨fun none => inhabited ?_, paths, read⟩
      rw [none] at read
      cases read
      rfl

/-- Nothing but the lack of pages is reported of them. -/
theorem fault_eq_of_listOfEntries {search : Entries} {fault : Fault}
    (failed : SearchPath.listOfEntries search = .error fault) : fault = .missingSearchPath := by
  cases single : search.text? "path" with
  | some path =>
    rw [SearchPath.listOfEntries, single] at failed
    cases failed
  | none =>
    rw [SearchPath.listOfEntries_of_no_path single] at failed
    refine (SearchPath.mapM_obeys _).fault_eq failed fun demand member => ?_
    obtain ⟨item, _, asked⟩ := List.mem_flatMap.mp member
    rw [List.mem_singleton.mp asked]

/-- The parts of a result are read one after another, each with its name first. -/
theorem fieldsOfEntries_obeys (entries : Entries) :
    Obeys (entries.flatMap fieldDemands) (fieldsOfEntries entries) := by
  refine (obeys_mapM entries fun field _ => ?_).bind_pure _
  refine obeys_orFault_bind _ field.1.isScalar_iff fun name read => ?_
  have own : field.1.scalar?.getD "" = name := by simp [read]
  rw [own]
  exact (selectorFor_obeys name field.2).bind_pure _

/-- The pages of results, one at least. -/
def pages (search : Entries) : Reading (List SearchPath) := do
  let paths ← SearchPath.listOfEntries search
  if paths.isEmpty then throw .missingSearchPath else return paths

/-- The selector of the rows. -/
def rowsUnder (search : Entries) : Reading Selector :=
  match search.get? "rows" with
  | none => throw .missingRowsSelector
  | some value => selectorFor "rows" value

/-- The parts of a result under their name. -/
def fieldsUnder (search : Entries) : Reading (Dictionary Selector) :=
  match search.get? "fields" with
  | none => throw .missingFields
  | some (.mapping entries) => fieldsOfEntries entries
  | some _ => throw .invalidFieldsFormat

/-- How to search is read part by part. -/
theorem ofEntries_eq (search : Entries) :
    ofEntries search = do
      let paths ← pages search
      let rows ← rowsUnder search
      let fields ← fieldsUnder search
      return {
        paths, rows, fields
        inputs := search.textMap "inputs"
        headers := search.listMap "headers"
        keywordsFilters := Selector.filtersNamed search "keywordsfilters" } := by
  rw [ofEntries, pages, rowsUnder, fieldsUnder]
  cases SearchPath.listOfEntries search with
  | error fault => rfl
  | ok paths =>
    cases paths with
    | nil => rfl
    | cons path rest =>
      cases search.get? "rows" with
      | none => rfl
      | some value =>
        cases search.get? "fields" with
        | none => rfl
        | some fields => cases fields <;> rfl

/-- The pages of a search obey the demand for one page at least. -/
theorem pages_obeys (search : Entries) :
    Obeys [⟨HasPages search, .missingSearchPath⟩] (pages search) := by
  rw [pages]
  have lacking (none : ¬ ∃ paths, SearchPath.listOfEntries search = .ok paths ∧ paths ≠ []) :
      ¬ HasPages search := mt (hasPages_iff search).mp none
  cases read : SearchPath.listOfEntries search with
  | error fault =>
    obtain rfl := fault_eq_of_listOfEntries read
    exact obeys_error (lacking (by simp [read]))
  | ok paths =>
    cases paths with
    | nil => exact obeys_error (lacking (by simp [read]))
    | cons path rest =>
      have there : HasPages search :=
        (hasPages_iff search).mpr ⟨_, read, List.cons_ne_nil path rest⟩
      exact (obeys_ok allMet_nil _).met there

/-- The rows obey the demands that they are there and can be written for a selector. -/
theorem rowsUnder_obeys (search : Entries) :
    Obeys [⟨search.Has "rows", .missingRowsSelector⟩,
      ⟨search.HasA IsSelectable "rows", .invalidSelector "rows"⟩] (rowsUnder search) := by
  rw [rowsUnder]
  cases found : search.get? "rows" with
  | none => exact obeys_error (mt (has_iff search "rows").mp (by simp [found]))
  | some value =>
    refine Obeys.met ?_ ((has_iff search "rows").mpr (by simp [found]))
    rw [hasA_iff_of_get? found]
    exact selectorFor_obeys "rows" value

/-- The parts of a result obey the demands that they are there, as a plain mapping, and those on
each of them. -/
theorem fieldsUnder_obeys (search : Entries) :
    Obeys ([⟨search.Has "fields", .missingFields⟩,
      ⟨search.HasA IsPlainMapping "fields", .invalidFieldsFormat⟩] ++
        (search.inside "fields").flatMap fieldDemands) (fieldsUnder search) := by
  rw [fieldsUnder]
  cases found : search.get? "fields" with
  | none => exact obeys_error (mt (has_iff search "fields").mp (by simp [found]))
  | some value =>
    refine Obeys.met ?_ ((has_iff search "fields").mpr (by simp [found]))
    rw [hasA_iff_of_get? found]
    cases value with
    | mapping entries =>
      refine Obeys.met ?_ ⟨entries, rfl⟩
      rw [inside_of_get? found]
      exact fieldsOfEntries_obeys entries
    | _ => exact obeys_error (Value.not_isPlainMapping nofun)

/-- How to search is read from the entries that meet the demands. -/
theorem ofEntries_obeys (search : Entries) : Obeys (entryDemands search) (ofEntries search) := by
  rw [ofEntries_eq]
  refine (pages_obeys search).bind fun paths _ => ?_
  refine (rowsUnder_obeys search).bind fun rows _ => ?_
  exact (fieldsUnder_obeys search).bind_pure _

/-- How to search is read from the document that meets the demands. -/
theorem ofYaml_obeys (root : Entries) : Obeys (demands root) (ofYaml (root.get? "search")) := by
  rw [demands]
  cases found : root.get? "search" with
  | none => exact obeys_error (mt (has_iff root "search").mp (by simp [found]))
  | some value =>
    refine Obeys.met ?_ ((has_iff root "search").mpr (by simp [found]))
    rw [hasA_iff_of_get? found]
    cases value with
    | mapping search =>
      refine Obeys.met ?_ ⟨search, rfl⟩
      rw [inside_of_get? found]
      exact ofEntries_obeys search
    | _ => exact obeys_error (Value.not_isPlainMapping nofun)

end Search

/-! ## Login, capabilities and downloads -/

/-- What is asked of the part about logging in, if there is one. -/
def Login.demands (root : Entries) : List Demand :=
  whenGiven root "login"
    [⟨root.HasA IsPlainMapping "login", .invalidLogin⟩,
      ⟨(root.inside "login").HasA IsScalar "method", .missingLoginMethod⟩]

/-- What is asked of the capabilities. -/
def Capabilities.demands (root : Entries) : List Demand :=
  [⟨root.HasA IsPlainMapping "caps", .missingCapabilities⟩]

/-- What is asked of the selectors of a download, if there are any. -/
def Download.selectorDemands (download : Entries) : List Demand :=
  whenGiven download "selectors"
    ([⟨download.HasA IsPlainSequence "selectors", .invalidSelector "download.selectors"⟩] ++
      (download.items "selectors").flatMap fun item =>
        [⟨item.IsSelectable, .invalidSelector "download.selectors"⟩])

/-- What is asked of the part about downloads, if there is one. -/
def Download.demands (root : Entries) : List Demand :=
  whenGiven root "download"
    ([⟨root.HasA IsPlainMapping "download", .notMapping "download"⟩] ++
      selectorDemands (root.inside "download"))

/-- The login obeys the demands on it. -/
theorem Login.ofYaml_obeys (root : Entries) :
    Obeys (demands root) (Definition.optionalPart ofYaml (root.get? "login")) := by
  refine optionalPart_obeys root "login" fun value found => ?_
  rw [hasA_iff_of_get? found]
  cases value with
  | mapping login =>
    refine Obeys.met ?_ ⟨login, rfl⟩
    rw [inside_of_get? found]
    exact (obeys_orFault _ (hasScalar_iff login "method")).bind_pure _
  | _ => exact obeys_error (Value.not_isPlainMapping nofun)

/-- The capabilities obey the demands on them. -/
theorem Capabilities.ofYaml_obeys (root : Entries) :
    Obeys (demands root) (ofYaml (root.get? "caps")) := by
  rw [demands]
  cases found : root.get? "caps" with
  | none => exact obeys_error (not_hasA_of_get? found IsPlainMapping)
  | some value =>
    rw [hasA_iff_of_get? found]
    cases value with
    | mapping capabilities => exact (obeys_ok allMet_nil _).met ⟨capabilities, rfl⟩
    | _ => exact obeys_error (Value.not_isPlainMapping nofun)

/-- The selectors of a download obey the demands on them. -/
theorem Download.selectorsOfEntries_obeys (download : Entries) :
    Obeys (selectorDemands download) (selectorsOfEntries download) := by
  rw [selectorDemands, selectorsOfEntries]
  cases found : download.get? "selectors" with
  | none => exact obeys_ok (allMet_whenGiven found _) _
  | some value =>
    rw [whenGiven_of_get? found, hasA_iff_of_get? found]
    cases value with
    | sequence items =>
      refine Obeys.met ?_ ⟨items, rfl⟩
      rw [items_of_get? found]
      exact obeys_mapM items fun item _ => selectorFor_obeys "download.selectors" item
    | _ => exact obeys_error (Value.not_isPlainSequence nofun)

/-- The download obeys the demands on it. -/
theorem Download.ofYaml_obeys (root : Entries) :
    Obeys (demands root) (Definition.optionalPart ofYaml (root.get? "download")) := by
  refine optionalPart_obeys root "download" fun value found => ?_
  rw [hasA_iff_of_get? found]
  cases value with
  | mapping download =>
    refine Obeys.met ?_ ⟨download, rfl⟩
    rw [inside_of_get? found]
    exact (selectorsOfEntries_obeys download).bind_pure _
  | _ => exact obeys_error (Value.not_isPlainMapping nofun)

/-! ## Settings -/

/-- What is asked of the setting at a place of the list. -/
def Setting.itemDemands (item : Value × Nat) : List Demand :=
  [⟨item.1.IsMapping, .invalidSetting (.notMapping item.2)⟩,
    ⟨item.1.inner.HasA IsScalar "name", .invalidSetting (.unnamed item.2)⟩,
    ⟨item.1.inner.HasA IsScalar "type",
      .invalidSetting (.untyped ((item.1.inner.text? "name").getD ""))⟩]

/-- What is asked of the settings, if there are any. -/
def Setting.demands (root : Entries) : List Demand :=
  whenGiven root "settings"
    ([⟨root.HasA IsPlainSequence "settings", .invalidSetting .notList⟩] ++
      (root.items "settings").zipIdx.flatMap itemDemands)

namespace Setting

/-- The setting at a place of the list obeys the demands on it. -/
theorem ofYaml_obeys (index : Nat) (value : Value) :
    Obeys (itemDemands (value, index)) (ofYaml index value) := by
  refine obeys_orFault_bind _ value.isMapping_iff fun (entries : Entries) found => ?_
  have own : value.inner = entries := by simp [Value.inner, found]
  rw [own]
  refine obeys_orFault_bind _ (hasScalar_iff entries "name") fun name read => ?_
  have called : (entries.text? "name").getD "" = name := by simp [read]
  rw [called]
  exact (obeys_orFault _ (hasScalar_iff entries "type")).bind_pure _

/-- The settings are read one after another, and each knows its place. -/
theorem listFrom_obeys (items : List Value) (index : Nat) :
    Obeys ((items.zipIdx index).flatMap itemDemands) (listFrom index items) := by
  induction items generalizing index with
  | nil => exact obeys_ok allMet_nil []
  | cons item rest inductionHypothesis =>
    rw [List.zipIdx_cons, List.flatMap_cons, listFrom]
    refine (ofYaml_obeys index item).bind fun setting _ => ?_
    exact (inductionHypothesis (index + 1)).bind_pure _

/-- The settings obey the demands on each of them, in their order. -/
theorem listOfYaml_obeys (root : Entries) :
    Obeys (demands root) (listOfYaml (root.get? "settings")) := by
  rw [demands]
  cases found : root.get? "settings" with
  | none => exact obeys_ok (allMet_whenGiven found _) _
  | some value =>
    rw [whenGiven_of_get? found, hasA_iff_of_get? found]
    cases value with
    | sequence items =>
      refine Obeys.met ?_ ⟨items, rfl⟩
      rw [items_of_get? found]
      exact listFrom_obeys items 0
    | _ => exact obeys_error (Value.not_isPlainSequence nofun)

end Setting

/-! ## The document -/

/-- A word for a kind of access, in any letter case and with blanks around it. -/
def Access.IsWord (text : String) : Prop :=
  Text.asciiLower (Text.trim text) ∈ ["public", "private", "semi-private", "semiprivate"]

/-- What is asked of the entry about access. -/
def Access.demands (root : Entries) : List Demand :=
  [⟨root.HasA IsScalar "type", .missingField "type"⟩,
    ⟨IsWord ((root.text? "type").getD ""), .invalidType ((root.text? "type").getD "")⟩]

/-- The words for kinds of access are those that can be read as one. -/
theorem Access.isWord_iff (text : String) : IsWord text ↔ (ofText? text).isSome = true := by
  rw [IsWord, ofText?, ofLabel?]
  generalize Text.asciiLower (Text.trim text) = word
  simp only [List.mem_cons, List.not_mem_nil, or_false]
  split_ifs <;> simp_all

/-- The kind of access obeys the demand on it. -/
theorem Definition.accessOfEntries_obeys (root : Entries) :
    Obeys (Access.demands root) (accessOfEntries root) := by
  refine obeys_orFault_bind _ (hasScalar_iff root "type") fun label read => ?_
  have own : (root.text? "type").getD "" = label := by simp [read]
  rw [own]
  exact obeys_orFault _ (Access.isWord_iff label)

/-- A text that the document must have. -/
def Definition.textDemand (root : Entries) (name : String) : Demand :=
  ⟨root.HasA IsScalar name, .missingField name⟩

/-- What is asked of the entries of a document. -/
def Definition.rootDemands (root : Entries) : List Demand :=
  Search.demands root ++ (Login.demands root ++ (Capabilities.demands root ++
    (Download.demands root ++ (Setting.demands root ++
      (["id", "name", "description", "language"].map (textDemand root) ++
        (Access.demands root ++
          [textDemand root "encoding", ⟨root.Has "links", .missingField "links"⟩]))))))

/-- What is asked of a document. -/
def Definition.demands (document : Value) : List Demand :=
  ⟨document.IsMapping, .notMapping "definition root"⟩ :: rootDemands document.inner

/-- The entries of a document obey the demands on them, part by part. -/
theorem Definition.ofEntries_obeys (root : Entries) :
    Obeys (rootDemands root) (ofEntries root) := by
  refine (Search.ofYaml_obeys root).bind fun search _ => ?_
  refine (Login.ofYaml_obeys root).bind fun login _ => ?_
  refine (Capabilities.ofYaml_obeys root).bind fun capabilities _ => ?_
  refine (Download.ofYaml_obeys root).bind fun download _ => ?_
  refine (Setting.listOfYaml_obeys root).bind fun settings _ => ?_
  refine obeys_orFault_bind _ (hasScalar_iff root "id") fun id _ => ?_
  refine obeys_orFault_bind _ (hasScalar_iff root "name") fun name _ => ?_
  refine obeys_orFault_bind _ (hasScalar_iff root "description") fun description _ => ?_
  refine obeys_orFault_bind _ (hasScalar_iff root "language") fun language _ => ?_
  refine (accessOfEntries_obeys root).bind fun access _ => ?_
  refine obeys_orFault_bind _ (hasScalar_iff root "encoding") fun encoding _ => ?_
  refine (obeys_orFault _ ?_).bind_pure _
  rw [has_iff, Option.isSome_map]

/-- A document obeys the demands on it: it is a mapping, and its entries obey theirs. -/
theorem Definition.ofYaml_obeys (document : Value) :
    Obeys (demands document) (ofYaml document) := by
  refine obeys_orFault_bind _ document.isMapping_iff fun root found => ?_
  have own : document.inner = root := by simp [Value.inner, found]
  rw [own]
  exact ofEntries_obeys root

/-- A document is a definition exactly when it meets every demand, and what is reported of any other
document is the fault of the first demand that it does not meet. A text is read as its document
is. -/
theorem reading_stops_at_the_first_unmet_demand (document : Value) :
    ((∃ definition, Definition.ofYaml document = .ok definition) ↔
        ∀ demand ∈ Definition.demands document, demand.holds) ∧
      (∀ fault, Definition.ofYaml document = .error fault ↔
        FirstUnmet (Definition.demands document) fault) ∧
      ∀ text, Value.read? text = some document →
        Definition.ofText text = Definition.ofYaml document := by
  refine ⟨(Definition.ofYaml_obeys document).succeeds_iff, Definition.ofYaml_obeys document, ?_⟩
  intro text decoded
  rw [Definition.ofText, decoded]
  rfl

/-- A document that has no rows, and whose login is a text. -/
def twoFaults : Value :=
  .mapping
    [(.text "login", .text "none"), (.text "search", .mapping [(.text "path", .text "/find")])]

/-- Of two faults, the one of the search is reported, though the login stands in front of it. -/
theorem twoFaults_report_rows :
    Definition.ofYaml twoFaults = .error .missingRowsSelector ∧
      FirstUnmet (Definition.demands twoFaults) .missingRowsSelector ∧
      ¬ ∀ demand ∈ Definition.demands twoFaults, demand.holds := by
  have failed : Definition.ofYaml twoFaults = .error .missingRowsSelector := rfl
  obtain ⟨succeeds, fails, _⟩ := reading_stops_at_the_first_unmet_demand twoFaults
  refine ⟨failed, (fails _).mp failed, fun met => ?_⟩
  obtain ⟨definition, read⟩ := succeeds.mpr met
  cases read.symm.trans failed

end ReleaseFinder
