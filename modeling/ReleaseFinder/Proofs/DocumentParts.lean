import ReleaseFinder.Proofs.DocumentEdits
import ReleaseFinder.Proofs.DocumentGrammar

/-!
# Parts of definition documents

A definition is read from its document part by part, and the reader of a part looks at the names it
knows, at the items of a list or, for the parts of a result, at all entries. `Part` names the parts,
and `Part.at?` says which part a way through a document leads to.

Two values are `Alike` as a part if its reader does the same with both. That they are is shown
without opening the readers again: it is enough that the values have one shape and that wherever the
reader looks it finds values that are alike as the parts there (`Shaped.alike`). So edits at the end
of a way are read alike by the document's reader if they are read alike by the reader of the part
they are made in, which `alike_changeAt` proves by walking along the way.
-/

namespace ReleaseFinder

open Yaml (Value Entries Step)

/-- The parts of a definition's document. -/
inductive Part where
  | document
  | search
  /-- The list of pages of results. -/
  | pages
  | page
  /-- The mapping of a result's parts, each by its name. -/
  | fields
  | login
  /-- The list of selectors of a failed login, or a selector on its own. -/
  | errors
  | loginTest
  | captcha
  | capabilities
  | categories
  | category
  | download
  | downloadSelectors
  /-- A selector, or a mapping that holds one as its hash. -/
  | infohash
  | preparation
  | settings
  | setting
  | selector
  | filters
  | filter
deriving DecidableEq, Repr

namespace Part

/-- The parts under the names of a part that is a mapping. What stands under any other name has no
names of its own that are looked up. -/
def named : Part → List (String × Part)
  | .document =>
    [("search", .search), ("login", .login), ("caps", .capabilities), ("download", .download),
      ("settings", .settings)]
  | .search =>
    [("paths", .pages), ("rows", .selector), ("fields", .fields), ("keywordsfilters", .filters)]
  | .login => [("error", .errors), ("test", .loginTest), ("captcha", .captcha)]
  | .capabilities => [("categorymappings", .categories)]
  | .download =>
    [("selectors", .downloadSelectors), ("selector", .selector), ("infohash", .infohash),
      ("before", .preparation)]
  | .infohash => [("hash", .selector), ("filters", .filters)]
  | .errors => [("filters", .filters)]
  | .selector => [("filters", .filters)]
  | _ => []

/-- What the items of a part are that is a sequence. -/
def ofItem? : Part → Option Part
  | .pages => some .page
  | .errors => some .selector
  | .categories => some .category
  | .downloadSelectors => some .selector
  | .settings => some .setting
  | .filters => some .filter
  | _ => none

/-- What the values of all entries of a part are. -/
def ofEntry? : Part → Option Part
  | .fields => some .selector
  | _ => none

/-- The part that a step leads to. -/
def step? (part : Part) : Step → Option Part
  | .under name => part.named.lookup name
  | .item _ => part.ofItem?
  | .entry _ => part.ofEntry?

/-- The part at the end of a way. -/
def at? (part : Part) : List Step → Option Part
  | [] => some part
  | step :: rest => (part.step? step).bind fun next => next.at? rest

end Part

/-! ## Parts that are read where they stand -/

/-- The entries of a mapping without a tag. -/
def Yaml.Value.plainEntries? : Value → Option Entries
  | .mapping entries => some entries
  | _ => none

/-- The pages of a list. -/
def SearchPath.listOfYaml : Value → Reading (List SearchPath)
  | .sequence items => items.mapM ofYaml
  | _ => .ok []

/-- The parts of a result from a mapping. -/
def Search.fieldsOfYaml : Value → Reading (Dictionary Selector)
  | .mapping entries => fieldsOfEntries entries
  | _ => throw .invalidFieldsFormat

/-- The categories of a list. -/
def Capabilities.mappingsOfYaml : Value → List CategoryMapping
  | .sequence items => items.filterMap mappingOfYaml?
  | _ => []

/-- The selectors of a list. -/
def Download.selectorsOfYaml : Value → Reading (List Selector)
  | .sequence items => items.mapM (selectorFor "download.selectors")
  | _ => throw (.invalidSelector "download.selectors")

/-- The selector of the infohash: the one that its mapping holds as a hash, or the value itself. -/
def Download.infohashOfYaml? : Value → Option Selector
  | .mapping entries =>
    if (Entries.held? entries "hash").isSome then
      (Entries.get? entries "hash").bind Selector.ofYaml?
    else some (Selector.ofEntries entries)
  | value => Selector.ofYaml? value

namespace Yaml.Entries

variable (entries : Entries)

/-- Entries under a name are the plain entries of the value that a lookup finds there. -/
theorem entries?_eq (name : String) :
    entries.entries? name = (entries.get? name).bind Value.plainEntries? := by
  rw [entries?]
  cases entries.get? name with
  | none => rfl
  | some value => cases value <;> rfl

/-- The pages of a search are the single page under `path`, or else what is read under `paths`. -/
theorem listOfEntries_eq :
    SearchPath.listOfEntries entries = (entries.text? "path").elim
      (((entries.get? "paths").map SearchPath.listOfYaml).getD (.ok [])) fun path =>
        .ok [{ path }] := by
  rw [SearchPath.listOfEntries]
  cases entries.text? "path" with
  | some path => rfl
  | none =>
    cases entries.get? "paths" with
    | none => rfl
    | some value => cases value <;> rfl

/-- The rows of a search are the selector under `rows`, which may not be missing. -/
theorem rowsUnder_eq :
    Search.rowsUnder entries =
      ((entries.get? "rows").map (selectorFor "rows")).getD (throw .missingRowsSelector) := by
  rw [Search.rowsUnder]
  cases entries.get? "rows" <;> rfl

/-- The parts of a result are read under `fields`, which may not be missing. -/
theorem fieldsUnder_eq :
    Search.fieldsUnder entries =
      ((entries.get? "fields").map Search.fieldsOfYaml).getD (throw .missingFields) := by
  rw [Search.fieldsUnder]
  cases entries.get? "fields" with
  | none => rfl
  | some value => cases value <;> rfl

/-- The categories are read under `categorymappings`, if it is there. -/
theorem mappingsOfEntries_eq :
    Capabilities.mappingsOfEntries entries =
      ((entries.get? "categorymappings").map Capabilities.mappingsOfYaml).getD [] := by
  rw [Capabilities.mappingsOfEntries]
  cases entries.get? "categorymappings" with
  | none => rfl
  | some value => cases value <;> rfl

/-- The selectors of a download are those under `selectors`, or else the single one under
`selector`. -/
theorem selectorsOfEntries_eq :
    Download.selectorsOfEntries entries =
      ((entries.get? "selectors").map Download.selectorsOfYaml).getD
      (.ok ((entries.get? "selector").bind Selector.ofYaml?).toList) := by
  rw [Download.selectorsOfEntries]
  cases entries.get? "selectors" with
  | none => rfl
  | some value => cases value <;> rfl

/-- The infohash is read from the value under its name. -/
theorem infohashOfEntries?_eq :
    Download.infohashOfEntries? entries =
      (entries.get? "infohash").bind Download.infohashOfYaml? := by
  rw [Download.infohashOfEntries?]
  cases entries.get? "infohash" with
  | none => rfl
  | some value => cases value <;> rfl

end Yaml.Entries

namespace Part

/-- Two values are read alike where this part is read. -/
def Alike : Part → Value → Value → Prop
  | .document, left, right => Definition.ofYaml left = Definition.ofYaml right
  | .search, left, right => Search.ofYaml (some left) = Search.ofYaml (some right)
  | .pages, left, right => SearchPath.listOfYaml left = SearchPath.listOfYaml right
  | .page, left, right => SearchPath.ofYaml left = SearchPath.ofYaml right
  | .fields, left, right => Search.fieldsOfYaml left = Search.fieldsOfYaml right
  | .login, left, right => Login.ofYaml left = Login.ofYaml right
  | .errors, left, right => Login.errorsOfYaml left = Login.errorsOfYaml right
  | .loginTest, left, right =>
    left.plainEntries?.map Login.testOfEntries = right.plainEntries?.map Login.testOfEntries
  | .captcha, left, right =>
    left.plainEntries?.bind Login.captchaOfEntries? =
      right.plainEntries?.bind Login.captchaOfEntries?
  | .capabilities, left, right => Capabilities.ofYaml (some left) = Capabilities.ofYaml (some right)
  | .categories, left, right => Capabilities.mappingsOfYaml left = Capabilities.mappingsOfYaml right
  | .category, left, right => Capabilities.mappingOfYaml? left = Capabilities.mappingOfYaml? right
  | .download, left, right => Download.ofYaml left = Download.ofYaml right
  | .downloadSelectors, left, right =>
    Download.selectorsOfYaml left = Download.selectorsOfYaml right
  | .infohash, left, right => Download.infohashOfYaml? left = Download.infohashOfYaml? right
  | .preparation, left, right =>
    left.plainEntries?.map Download.preparationOfEntries =
      right.plainEntries?.map Download.preparationOfEntries
  | .settings, left, right => Setting.listOfYaml (some left) = Setting.listOfYaml (some right)
  | .setting, left, right => ∀ index, Setting.ofYaml index left = Setting.ofYaml index right
  | .selector, left, right => Selector.ofYaml? left = Selector.ofYaml? right
  | .filters, left, right => Filter.listOfYaml left = Filter.listOfYaml right
  | .filter, left, right => Filter.ofYaml? left = Filter.ofYaml? right

/-- A value is read like itself. -/
theorem Alike.refl (part : Part) (value : Value) : part.Alike value value := by
  cases part <;> simp [Alike]

/-- Values are read alike as a part; what is no part has to be the same. -/
def AlikeAs : Option Part → Value → Value → Prop
  | some part => part.Alike
  | none => Eq

/-- A value is read like itself, as a part or as no part. -/
theorem AlikeAs.refl (part : Option Part) (value : Value) : AlikeAs part value value := by
  cases part with
  | none => rfl
  | some part => exact Alike.refl part value

/-- The result of a lookup is read like itself. -/
theorem AlikeAs.rel_refl (part : Option Part) (found : Option Value) :
    Option.Rel (AlikeAs part) found found := by
  cases found with
  | none => exact .none
  | some value => exact .some (AlikeAs.refl part value)

/-- Entries of a part in which lookups find values that are read alike. -/
structure Matches (part : Part) (left right : Entries) : Prop where
  under : ∀ name, Option.Rel (AlikeAs (part.named.lookup name)) (left.get? name) (right.get? name)
  /-- Whether the infohash has a hash is asked without looking at it. -/
  hash : part = .infohash → (left.held? "hash").isSome = (right.held? "hash").isSome

/-- Values of one shape in which everything that this part looks at is read alike. -/
inductive Shaped (part : Part) : Value → Value → Prop where
  | same (value : Value) : Shaped part value value
  | mapping {left right : Entries} (byName : part.ofEntry? = none)
      (matched : part.Matches left right) :
      Shaped part (.mapping left) (.mapping right)
  | entries {left right : Entries}
      (matched :
        List.Forall₂ (fun one other => one.1 = other.1 ∧ AlikeAs part.ofEntry? one.2 other.2)
        left right) : Shaped part (.mapping left) (.mapping right)
  | sequence {left right : List Value} (matched : List.Forall₂ (AlikeAs part.ofItem?) left right) :
      Shaped part (.sequence left) (.sequence right)
  | tagged (tag : String) {left right : Value} (inner : Shaped part left right) :
      Shaped part (.tagged tag left) (.tagged tag right)

/-! ## Entries that match -/

namespace Matches

variable {part : Part} {left right : Entries} (matched : part.Matches left right)
include matched

/-- Under a name that leads to a part, values are found that this part reads alike. -/
theorem read_eq {β : Type} (name : String) (next : Part) (read : Option Value → β)
    (leads : part.named.lookup name = some next)
    (reads : ∀ one other, next.Alike one other → read (some one) = read (some other)) :
    read (left.get? name) = read (right.get? name) := by
  have alike := matched.under name
  rw [leads] at alike
  generalize left.get? name = one at alike
  generalize right.get? name = other at alike
  cases alike with
  | none => rfl
  | some same => exact reads _ _ same

/-- Under a name that leads to no part, the same is found. -/
theorem get?_eq {name : String} (leaf : part.named.lookup name = none) :
    left.get? name = right.get? name := by
  have alike := matched.under name
  rw [leaf] at alike
  generalize left.get? name = one at alike
  generalize right.get? name = other at alike
  cases alike with
  | none => rfl
  | some same => exact congrArg some same

end Matches

/-- Items that are read alike make the same list. -/
theorem filterMap_eq_of_alike {β : Type} {read : Value → Option β} {left right : List Value}
    (alike : List.Forall₂ (fun one other => read one = read other) left right) :
    left.filterMap read = right.filterMap read := by
  induction alike with
  | nil => rfl
  | cons same _ inductionHypothesis =>
    rw [List.filterMap_cons, List.filterMap_cons, same, inductionHypothesis]

/-- Items that are read alike, one after another, are read alike together. -/
theorem mapM_eq_of_alike {α β : Type} {read : α → Reading β} {left right : List α}
    (alike : List.Forall₂ (fun one other => read one = read other) left right) :
    left.mapM read = right.mapM read := by
  induction alike with
  | nil => rfl
  | cons same _ inductionHypothesis =>
    rw [List.mapM_cons, List.mapM_cons, same, inductionHypothesis]

/-- Settings that are read alike at any place are read alike together. -/
theorem listFrom_eq_of_alike {left right : List Value}
    (alike : List.Forall₂ setting.Alike left right) (index : Nat) :
    Setting.listFrom index left = Setting.listFrom index right := by
  induction alike generalizing index with
  | nil => rfl
  | cons same _ inductionHypothesis =>
    rw [Setting.listFrom, Setting.listFrom, same index, inductionHypothesis (index + 1)]

/-- The parts of a result are read alike if their selectors are. -/
theorem fieldsOfEntries_eq_of_alike {left right : Entries}
    (alike :
      List.Forall₂ (fun one other => one.1 = other.1 ∧ selector.Alike one.2 other.2) left right) :
    Search.fieldsOfEntries left = Search.fieldsOfEntries right := by
  rw [Search.fieldsOfEntries, Search.fieldsOfEntries, mapM_eq_of_alike]
  refine alike.imp fun one other both => ?_
  obtain ⟨name, same⟩ := both
  rw [Alike] at same
  simp only [name, selectorFor, same]

/-! ## Records -/

section Records

variable {left right : Entries}

/-- A page of results looks up leaves only, so matching entries give one page. -/
theorem page_eq (matched : page.Matches left right) :
    SearchPath.ofYaml (.mapping left) = SearchPath.ofYaml (.mapping right) := by
  simp only [SearchPath.ofYaml, Entries.text?, Entries.texts, matched.get?_eq rfl]

/-- A filter looks up leaves only, so matching entries give one filter. -/
theorem filter_eq (matched : filter.Matches left right) :
    Filter.ofYaml? (.mapping left) = Filter.ofYaml? (.mapping right) := by
  simp only [Filter.ofYaml?, Entries.text?, Entries.texts, matched.get?_eq rfl]

/-- A setting looks up leaves only, so matching entries give one setting, at every index. -/
theorem setting_eq (matched : setting.Matches left right) (index : Nat) :
    Setting.ofYaml index (.mapping left) = Setting.ofYaml index (.mapping right) := by
  simp only [Setting.ofYaml, Value.entries?, Value.withoutTags, orFault, bind, Except.bind,
    Entries.text?, Entries.textMap, Entries.entries?, matched.get?_eq rfl]

/-- A category looks up leaves only, so matching entries give one category. -/
theorem category_eq (matched : category.Matches left right) :
    Capabilities.mappingOfYaml? (.mapping left) = Capabilities.mappingOfYaml? (.mapping right) := by
  simp only [Capabilities.mappingOfYaml?, Value.entries?, Value.withoutTags, bind, Option.bind,
    Entries.text?, Entries.truth?, matched.get?_eq rfl]

/-- The test of a login looks up leaves only, so matching entries give one test. -/
theorem loginTest_eq (matched : loginTest.Matches left right) :
    Login.testOfEntries left = Login.testOfEntries right := by
  simp only [Login.testOfEntries, Entries.text?, matched.get?_eq rfl]

/-- A captcha looks up leaves only, so matching entries give one captcha. -/
theorem captcha_eq (matched : captcha.Matches left right) :
    Login.captchaOfEntries? left = Login.captchaOfEntries? right := by
  simp only [Login.captchaOfEntries?, Entries.text?, matched.get?_eq rfl]

/-- The request before a download looks up leaves only, so matching entries give one request. -/
theorem preparation_eq (matched : preparation.Matches left right) :
    Download.preparationOfEntries left = Download.preparationOfEntries right := by
  simp only [Download.preparationOfEntries, Entries.text?, Entries.textMap, Entries.entries?,
    matched.get?_eq rfl]

/-- The parts that may be a selector on its own look up the names of a selector. -/
theorem named_of_selector : ∀ part ∈ [selector, errors, infohash],
    part.ofEntry? = none ∧ part.named.lookup "filters" = some filters ∧
      ∀ name ∈ ["selector", "text", "attribute", "remove", "case"],
        part.named.lookup name = none := by
  decide

/-- A selector looks up leaves and its filters. Where matching entries are read as one, they give
one selector. -/
theorem selector_eq {part : Part} (reads : part ∈ [selector, errors, infohash])
    (matched : part.Matches left right) : Selector.ofEntries left = Selector.ofEntries right := by
  obtain ⟨_, leads, leaves⟩ := named_of_selector part reads
  have leaf (name : String) (plain : name ∈ ["selector", "text", "attribute", "remove", "case"]) :
      left.get? name = right.get? name := matched.get?_eq (leaves name plain)
  have filters : Selector.filtersNamed left "filters" = Selector.filtersNamed right "filters" :=
    matched.read_eq "filters" .filters (fun found => (found.map Filter.listOfYaml).getD []) leads
      fun one other same => same
  simp (disch := decide) only [Selector.ofEntries, Entries.text?, Entries.entries?, leaf, filters]

/-- An infohash is the selector under its hash, or the selector that its entries are. -/
theorem infohash_eq (matched : infohash.Matches left right) :
    Download.infohashOfYaml? (.mapping left) = Download.infohashOfYaml? (.mapping right) := by
  have hash := matched.read_eq "hash" .selector (fun found => found.bind Selector.ofYaml?) rfl
    fun one other same => same
  rw [Download.infohashOfYaml?, Download.infohashOfYaml?, matched.hash rfl, hash,
    selector_eq (by decide) matched]

/-- A search looks up its pages, rows, parts of a result and filters of keywords; all else are
leaves. -/
theorem search_eq (matched : search.Matches left right) :
    Search.ofEntries left = Search.ofEntries right := by
  have pages := matched.read_eq "paths" .pages
    (fun found => (found.map SearchPath.listOfYaml).getD (.ok [])) rfl
    fun one other same => same
  have rows := matched.read_eq "rows" .selector
    (fun found => (found.map (selectorFor "rows")).getD (throw .missingRowsSelector)) rfl
    fun one other (same : Selector.ofYaml? one = Selector.ofYaml? other) =>
      congrArg (orFault (.invalidSelector "rows")) same
  have fields := matched.read_eq "fields" .fields
    (fun found => (found.map Search.fieldsOfYaml).getD (throw .missingFields)) rfl
    fun one other same => same
  have keywords := matched.read_eq "keywordsfilters" .filters
    (fun found => (found.map Filter.listOfYaml).getD []) rfl
    fun one other same => same
  simp (disch := decide) only [Search.ofEntries_eq, Search.pages, Entries.listOfEntries_eq,
    Entries.rowsUnder_eq, Entries.fieldsUnder_eq, Selector.filtersNamed, pages, rows, fields,
    keywords, Entries.text?, Entries.textMap, Entries.listMap, Entries.entries?, matched.get?_eq]

/-- A login looks up its messages of errors, test and captcha; all else are leaves. -/
theorem login_eq (matched : login.Matches left right) :
    Login.ofYaml (.mapping left) = Login.ofYaml (.mapping right) := by
  have errors :=
    matched.read_eq "error" .errors (fun found => (found.map Login.errorsOfYaml).getD []) rfl
    fun one other same => same
  have test := matched.read_eq "test" .loginTest
    (fun found => (found.bind Value.plainEntries?).map Login.testOfEntries) rfl
    fun one other same => same
  have captcha := matched.read_eq "captcha" .captcha
    (fun found => (found.bind Value.plainEntries?).bind Login.captchaOfEntries?) rfl
    fun one other same => same
  simp (disch := decide) only [Login.ofYaml, Entries.entries?_eq, errors, test, captcha,
    Entries.text?, Entries.texts, Entries.textMap, matched.get?_eq]

/-- Capabilities look up their categories; all else are leaves. -/
theorem capabilities_eq (matched : capabilities.Matches left right) :
    Capabilities.ofYaml (some (.mapping left)) = Capabilities.ofYaml (some (.mapping right)) := by
  have mappings := matched.read_eq "categorymappings" .categories
    (fun found => (found.map Capabilities.mappingsOfYaml).getD []) rfl fun one other same => same
  simp (disch := decide) only [Capabilities.ofYaml, Entries.mappingsOfEntries_eq, mappings,
    Entries.textMap, Entries.entries?, matched.get?_eq]

/-- A download looks up its selectors, infohash and preceding request; all else are leaves. -/
theorem download_eq (matched : download.Matches left right) :
    Download.ofYaml (.mapping left) = Download.ofYaml (.mapping right) := by
  have single := matched.read_eq "selector" .selector (fun found => found.bind Selector.ofYaml?) rfl
    fun one other same => same
  have selectors := matched.read_eq "selectors" .downloadSelectors
    (fun found => (found.map Download.selectorsOfYaml).getD
    (.ok ((right.get? "selector").bind Selector.ofYaml?).toList)) rfl fun one other same => same
  have infohash := matched.read_eq "infohash" .infohash
    (fun found => found.bind Download.infohashOfYaml?) rfl
    fun one other same => same
  have before := matched.read_eq "before" .preparation
    (fun found => (found.bind Value.plainEntries?).map Download.preparationOfEntries) rfl
    fun one other same => same
  simp (disch := decide) only [Download.ofYaml, Entries.selectorsOfEntries_eq, Entries.entries?_eq,
    Entries.infohashOfEntries?_eq, single, selectors, infohash, before, Entries.text?,
    matched.get?_eq]

/-- A document looks up its five parts; all else are leaves. -/
theorem document_eq (matched : document.Matches left right) :
    Definition.ofEntries left = Definition.ofEntries right := by
  have search := matched.read_eq "search" .search Search.ofYaml rfl fun one other same => same
  have login := matched.read_eq "login" .login (Definition.optionalPart Login.ofYaml) rfl
    fun one other (same : Login.ofYaml one = Login.ofYaml other) => congrArg (some <$> ·) same
  have capabilities :=
    matched.read_eq "caps" .capabilities Capabilities.ofYaml rfl fun one other same => same
  have download :=
    matched.read_eq "download" .download (Definition.optionalPart Download.ofYaml) rfl
    fun one other (same : Download.ofYaml one = Download.ofYaml other) => congrArg (some <$> ·) same
  have settings :=
    matched.read_eq "settings" .settings Setting.listOfYaml rfl fun one other same => same
  simp (disch := decide) only [Definition.ofEntries, search, login, capabilities, download,
    settings, Definition.requiredText, Definition.accessOfEntries, Entries.text?, Entries.texts,
    Entries.truth?, Entries.number?, matched.get?_eq]

end Records

/-! ## Shapes -/

variable {part : Part} {left right : Value}

/-- What looks through tags in one way, and reads matching entries and items alike, reads values of
one shape alike. -/
theorem Shaped.read_eq {β : Type} (shaped : part.Shaped left right) (read : Value → β)
    (byName : part.ofEntry? = none)
    (tagged : ∀ tag one other, part.Shaped one other → read one = read other →
      read (.tagged tag one) = read (.tagged tag other))
    (mapping : ∀ one other, part.Matches one other → read (.mapping one) = read (.mapping other))
    (sequence : ∀ one other, List.Forall₂ (AlikeAs part.ofItem?) one other →
      read (.sequence one) = read (.sequence other)) : read left = read right := by
  induction shaped with
  | same => rfl
  | mapping _ matched => exact mapping _ _ matched
  | entries matched =>
    have equal : List.Forall₂ Eq _ _ := matched.imp fun one other both => by
      rw [byName] at both
      exact Prod.ext both.1 both.2
    rw [List.forall₂_eq_eq_eq] at equal
    exact congrArg (fun entries => read (.mapping entries)) equal
  | sequence matched => exact sequence _ _ matched
  | tagged tag inner inductionHypothesis => exact tagged tag _ _ inner inductionHypothesis

/-- Where a selector may be written, values of one shape are read as one selector. -/
theorem Shaped.selector_eq (shaped : part.Shaped left right)
    (reads : part ∈ [selector, errors, infohash]) :
    Selector.ofYaml? left = Selector.ofYaml? right := by
  obtain ⟨byName, _⟩ := named_of_selector part reads
  exact shaped.read_eq Selector.ofYaml? byName (fun _ _ _ _ same => same)
    (fun one other matched => congrArg some (Part.selector_eq reads matched)) fun _ _ _ => rfl

/-- Values of one shape have the same text, if they have one. -/
theorem Shaped.scalar?_eq (shaped : part.Shaped left right) (byName : part.ofEntry? = none) :
    left.scalar? = right.scalar? :=
  shaped.read_eq Value.scalar? byName (fun _ _ _ _ same => same) (fun _ _ _ => rfl) fun _ _ _ => rfl

/-- Values of one shape in which everything that a part looks at is read alike are read alike as the
part. -/
theorem Shaped.alike (shaped : part.Shaped left right) : part.Alike left right := by
  cases part with
  | document =>
    exact shaped.read_eq Definition.ofYaml rfl (fun _ _ _ _ same => same) (fun _ _ => document_eq)
      fun _ _ _ => rfl
  | search =>
    exact shaped.read_eq (fun value => Search.ofYaml (some value)) rfl (fun _ _ _ _ _ => rfl)
      (fun _ _ => search_eq) fun _ _ _ => rfl
  | pages =>
    exact shaped.read_eq SearchPath.listOfYaml rfl (fun _ _ _ _ _ => rfl) (fun _ _ _ => rfl)
      fun _ _ => mapM_eq_of_alike
  | page =>
    refine shaped.read_eq SearchPath.ofYaml rfl (fun tag one other inner _ => ?_)
      (fun _ _ => page_eq) fun _ _ _ => rfl
    exact congrArg
      (fun text : Option String => orFault _ (text.map fun path => ({ path } : SearchPath)))
      (inner.scalar?_eq rfl)
  | fields =>
    cases shaped with
    | mapping byName => cases byName
    | entries matched => exact fieldsOfEntries_eq_of_alike matched
    | _ => rfl
  | login =>
    exact shaped.read_eq Login.ofYaml rfl (fun _ _ _ _ _ => rfl)
      (fun _ _ => login_eq) fun _ _ _ => rfl
  | errors =>
    refine shaped.read_eq Login.errorsOfYaml rfl (fun tag one other inner _ => ?_)
      (fun one other matched => ?_)
      fun _ _ => filterMap_eq_of_alike
    · exact congrArg Option.toList (inner.selector_eq (by decide))
    · exact congrArg List.singleton (Part.selector_eq (by decide) matched)
  | loginTest =>
    refine shaped.read_eq (fun value => value.plainEntries?.map Login.testOfEntries) rfl
      (fun _ _ _ _ _ => rfl) (fun _ _ matched => ?_) fun _ _ _ => rfl
    exact congrArg some (loginTest_eq matched)
  | captcha =>
    exact shaped.read_eq (fun value => value.plainEntries?.bind Login.captchaOfEntries?) rfl
      (fun _ _ _ _ _ => rfl) (fun _ _ => captcha_eq) fun _ _ _ => rfl
  | capabilities =>
    exact shaped.read_eq (fun value => Capabilities.ofYaml (some value)) rfl (fun _ _ _ _ _ => rfl)
      (fun _ _ => capabilities_eq) fun _ _ _ => rfl
  | categories =>
    exact shaped.read_eq Capabilities.mappingsOfYaml rfl (fun _ _ _ _ _ => rfl) (fun _ _ _ => rfl)
      fun _ _ => filterMap_eq_of_alike
  | category =>
    exact shaped.read_eq Capabilities.mappingOfYaml? rfl (fun _ _ _ _ same => same)
      (fun _ _ => category_eq)
      fun _ _ _ => rfl
  | download =>
    exact shaped.read_eq Download.ofYaml rfl (fun _ _ _ _ _ => rfl) (fun _ _ => download_eq)
      fun _ _ _ => rfl
  | downloadSelectors =>
    refine shaped.read_eq Download.selectorsOfYaml rfl (fun _ _ _ _ _ => rfl) (fun _ _ _ => rfl)
      fun one other matched => ?_
    refine mapM_eq_of_alike (matched.imp fun one other same => ?_)
    exact congrArg (orFault _) same
  | infohash =>
    refine shaped.read_eq Download.infohashOfYaml? rfl (fun tag one other inner _ => ?_)
      (fun _ _ => infohash_eq) fun _ _ _ => rfl
    exact inner.selector_eq (by decide)
  | preparation =>
    refine shaped.read_eq (fun value => value.plainEntries?.map Download.preparationOfEntries) rfl
      (fun _ _ _ _ _ => rfl) (fun _ _ matched => ?_) fun _ _ _ => rfl
    exact congrArg some (preparation_eq matched)
  | settings =>
    exact shaped.read_eq (fun value => Setting.listOfYaml (some value)) rfl (fun _ _ _ _ _ => rfl)
      (fun _ _ _ => rfl) fun _ _ matched => listFrom_eq_of_alike matched 0
  | setting =>
    intro index
    exact shaped.read_eq (Setting.ofYaml index) rfl (fun _ _ _ _ same => same)
      (fun _ _ matched => setting_eq matched index)
      fun _ _ _ => rfl
  | selector => exact shaped.selector_eq (by decide)
  | filters =>
    exact shaped.read_eq Filter.listOfYaml rfl (fun _ _ _ _ _ => rfl) (fun _ _ _ => rfl)
      fun _ _ => filterMap_eq_of_alike
  | filter =>
    refine shaped.read_eq Filter.ofYaml? rfl (fun tag one other inner _ => ?_)
      (fun _ _ => filter_eq) fun _ _ _ => rfl
    exact congrArg (Option.map fun name => ({ name } : Filter)) (inner.scalar?_eq rfl)

/-! ## Ways -/

/-- A change under the tags gives one shape if it does without them. -/
theorem shaped_mapUntagged {first second : Value → Value}
    (untagged : ∀ value, part.Shaped (first value) (second value)) (value : Value) :
    part.Shaped (value.mapUntagged first) (value.mapUntagged second) := by
  fun_induction Value.mapUntagged first value with
  | case1 tag value inductionHypothesis =>
    rw [Value.mapUntagged]
    exact .tagged tag inductionHypothesis
  | case2 value plain =>
    rw [Value.mapUntagged.eq_2 _ _ plain]
    exact untagged value

/-- Changes of what stands under a name match if the changed values are read alike. -/
theorem matches_changeUnder {first second : Value → Value} {name : String}
    (alike : ∀ value, AlikeAs (part.named.lookup name) (first value) (second value))
    (firstKeeps : ∀ value, first value = .null ↔ value = .null)
    (secondKeeps : ∀ value, second value = .null ↔ value = .null) (entries : Entries) :
    part.Matches (Entries.changeUnder name first entries)
      (Entries.changeUnder name second entries) where
  under other := by
    rw [Entries.get?_changeUnder firstKeeps, Entries.get?_changeUnder secondKeeps]
    by_cases same : other = name
    · rw [if_pos same, if_pos same]
      cases Entries.get? entries other with
      | none => exact .none
      | some value => exact .some (same ▸ alike value)
    · rw [if_neg same, if_neg same]
      exact AlikeAs.rel_refl _ _
  hash _ := by
    rw [Entries.held?_changeUnder, Entries.held?_changeUnder]
    split_ifs <;> simp

/-- Items in their places are related if the one that is changed is. -/
theorem forall₂_modify {α : Type} {related : α → α → Prop} (refl : ∀ item, related item item)
    {first second : α → α} (alike : ∀ item, related (first item) (second item)) (items : List α)
    (index : Nat) :
    List.Forall₂ related (items.modify index first) (items.modify index second) := by
  induction items generalizing index with
  | nil => simp
  | cons item rest inductionHypothesis =>
    cases index with
    | zero =>
      rw [List.modify_zero_cons, List.modify_zero_cons]
      exact .cons (alike item) (List.forall₂_same.mpr fun other _ => refl other)
    | succ index =>
      rw [List.modify_succ_cons, List.modify_succ_cons]
      exact .cons (refl item) (inductionHypothesis index)

/-- What is looked up by name is not read entry by entry. -/
theorem ofEntry?_of_named {name : String} {next : Part}
    (leads : part.named.lookup name = some next) : part.ofEntry? = none := by
  cases part with
  | fields => cases leads
  | _ => rfl

/-- Only the parts of a result are read entry by entry. -/
theorem ofEntry?_of_ne (other : part ≠ .fields) : part.ofEntry? = none := by
  cases part with
  | fields => exact absurd rfl other
  | _ => rfl

/-- A step into a value gives one shape if what it leads to is read alike. -/
theorem shaped_stepInto {step : Step} {next : Part} (leads : part.step? step = some next)
    {first second : Value → Value} (alike : ∀ value, next.Alike (first value) (second value))
    (firstKeeps : ∀ value, first value = .null ↔ value = .null)
    (secondKeeps : ∀ value, second value = .null ↔ value = .null) (value : Value) :
    part.Shaped (value.stepInto first step) (value.stepInto second step) := by
  have alikeAs (value : Value) : AlikeAs (part.step? step) (first value) (second value) := by
    rw [leads]
    exact alike value
  cases step with
  | under name =>
    cases value with
    | mapping entries =>
      exact .mapping (ofEntry?_of_named leads)
        (matches_changeUnder alikeAs firstKeeps secondKeeps entries)
    | _ => exact .same _
  | entry index =>
    cases value with
    | mapping entries =>
      exact .entries (forall₂_modify (fun entry => ⟨rfl, AlikeAs.refl _ entry.2⟩)
        (fun entry => ⟨rfl, alikeAs entry.2⟩) entries index)
    | _ => exact .same _
  | item index =>
    cases value with
    | sequence items => exact .sequence (forall₂_modify (AlikeAs.refl _) alikeAs items index)
    | _ => exact .same _

/-- Edits that give matching entries give one shape. -/
theorem shaped_edit (byName : part.ofEntry? = none) {first second : Entries → Entries}
    (matched : ∀ entries, part.Matches (first entries) (second entries)) (value : Value) :
    part.Shaped (value.changeAt first []) (value.changeAt second []) := by
  refine shaped_mapUntagged (fun value => ?_) value
  cases value with
  | mapping entries => exact .mapping byName (matched entries)
  | _ => exact .same _

/-- Edits at the end of a way are read alike if they are where the way ends. The way is walked from
its start, and what the rest of it leads to is read alike by induction. -/
theorem alike_changeAt {target : Part} {way : List Step} (reached : part.at? way = some target)
    {first second : Entries → Entries}
    (alike : ∀ value : Value, target.Alike (value.changeAt first []) (value.changeAt second []))
    (value : Value) :
    part.Alike (value.changeAt first way) (value.changeAt second way) := by
  induction way generalizing part value with
  | nil =>
    obtain rfl := Option.some.inj reached
    exact alike value
  | cons step rest inductionHypothesis =>
    obtain ⟨next, leads, onward⟩ := Option.bind_eq_some_iff.mp reached
    refine (shaped_mapUntagged (shaped_stepInto leads ?_ ?_ ?_) value).alike
    · exact inductionHypothesis onward
    · exact Value.changeAt_eq_null_iff first rest
    · exact Value.changeAt_eq_null_iff second rest

end Part

end ReleaseFinder
