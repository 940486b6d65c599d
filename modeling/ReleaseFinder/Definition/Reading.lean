import ReleaseFinder.Definition.Basic
import ReleaseFinder.Definition.Error
import ReleaseFinder.Yaml.Document

/-!
# Reading definitions

A definition from its document. The parts are read in a fixed order: search, login, capabilities,
download, settings, and then the fields of the document itself. The first fault is the one reported.
-/

namespace ReleaseFinder

open Yaml (Value Entries)

/-- A part of a definition, or what is wrong with it. -/
abbrev Reading (α : Type) := Except Fault α

/-- The value, or a fault when there is none. -/
def orFault {α : Type} (fault : Fault) : Option α → Reading α
  | some value => .ok value
  | none => .error fault

/-- A selector, or a fault that names what it is for. -/
def selectorFor (name : String) (value : Value) : Reading Selector :=
  orFault (.invalidSelector name) (Selector.ofYaml? value)

namespace SearchPath

/-- A page of results from its path, or from a mapping. -/
def ofYaml : Value → Reading SearchPath
  | .mapping entries => do
    return {
      path := ← orFault .missingSearchPath (Entries.text? entries "path")
      categories := Entries.texts entries "categories"
      method := ((Entries.text? entries "method").map Text.asciiLower).getD standardMethod }
  | value => orFault .missingSearchPath (value.scalar?.map fun path => { path })

/-- The pages of results. A single path wins over a list of them. -/
def listOfEntries (search : Entries) : Reading (List SearchPath) :=
  match search.text? "path" with
  | some path => .ok [{ path }]
  | none =>
    match search.get? "paths" with
    | some (.sequence items) => items.mapM ofYaml
    | _ => .ok []

end SearchPath

namespace Search

/-- The parts of a result. -/
def fieldsOfEntries (entries : Entries) : Reading (Dictionary Selector) := do
  let fields ← entries.mapM fun entry => do
    let name ← orFault .invalidFieldsFormat entry.1.scalar?
    return (name, ← selectorFor name entry.2)
  return .ofList fields

/-- How to search, from the entries of a mapping. -/
def ofEntries (search : Entries) : Reading Search := do
  let paths ← SearchPath.listOfEntries search
  if paths.isEmpty then throw .missingSearchPath
  let rows ←
    match search.get? "rows" with
    | none => throw .missingRowsSelector
    | some value => selectorFor "rows" value
  let fields ←
    match search.get? "fields" with
    | none => throw .missingFields
    | some (.mapping entries) => fieldsOfEntries entries
    | some _ => throw .invalidFieldsFormat
  return {
    paths, rows, fields
    inputs := search.textMap "inputs"
    headers := search.listMap "headers"
    keywordsFilters := Selector.filtersNamed search "keywordsfilters" }

/-- How to search. -/
def ofYaml : Option Value → Reading Search
  | none => throw .missingSearchPath
  | some (.mapping search) => ofEntries search
  | some _ => throw (.notMapping "search")

end Search

namespace Login

/-- The selectors of a list, passing over what is none, or a selector on its own. -/
def errorsOfYaml : Value → List Selector
  | .sequence items => items.filterMap Selector.ofYaml?
  | value => (Selector.ofYaml? value).toList

/-- The page that tells whether a login has succeeded. -/
def testOfEntries (test : Entries) : LoginTest :=
  { path := test.text? "path", selector := test.text? "selector" }

/-- A picture that has to be read by a person. Without a kind there is none. -/
def captchaOfEntries? (captcha : Entries) : Option Captcha := do
  return {
    kind := ← captcha.text? "type"
    selector := captcha.text? "selector"
    input := captcha.text? "input" }

/-- How to log in. -/
def ofYaml : Value → Reading Login
  | .mapping login => do
    let method ← orFault .missingLoginMethod (Entries.text? login "method")
    return {
      method := Text.asciiLower method
      path := (Entries.text? login "path").getD ""
      submitPath := Entries.text? login "submitpath"
      form := Entries.text? login "form"
      inputs := Entries.textMap login "inputs"
      errors := ((Entries.get? login "error").map errorsOfYaml).getD []
      test := (Entries.entries? login "test").map testOfEntries
      cookies := Entries.texts login "cookies"
      captcha := (Entries.entries? login "captcha").bind captchaOfEntries? }
  | _ => throw .invalidLogin

end Login

namespace Capabilities

/-- A category. Without an id or a category to belong to it is passed over. -/
def mappingOfYaml? (value : Value) : Option CategoryMapping := do
  let entries ← value.entries?
  return {
    id := ← Entries.text? entries "id"
    category := ← Entries.text? entries "cat"
    description := Entries.text? entries "desc"
    byDefault := (Entries.truth? entries "default").getD false }

/-- The categories under a name. -/
def mappingsOfEntries (capabilities : Entries) : List CategoryMapping :=
  match capabilities.get? "categorymappings" with
  | some (.sequence items) => items.filterMap mappingOfYaml?
  | _ => []

/-- What can be searched for. -/
def ofYaml : Option Value → Reading Capabilities
  | some (.mapping capabilities) => return {
      modes :=
        (Entries.entries? capabilities "modes").map
          (Entries.dictionary fun value => some value.scalars)
      categories := Entries.textMap capabilities "categories"
      categoryMappings := mappingsOfEntries capabilities }
  | _ => throw .missingCapabilities

end Capabilities

namespace Download

/-- The selectors of the download link. Older definitions have a single one. -/
def selectorsOfEntries (download : Entries) : Reading (List Selector) :=
  match download.get? "selectors" with
  | some (.sequence items) => items.mapM (selectorFor "download.selectors")
  | some _ => throw (.invalidSelector "download.selectors")
  | none => .ok ((download.get? "selector").bind Selector.ofYaml?).toList

/-- The selector of the infohash, which may stand beside one of a title. -/
def infohashOfEntries? (download : Entries) : Option Selector :=
  match download.get? "infohash" with
  | some (.mapping entries) =>
    if (Entries.held? entries "hash").isSome then
      (Entries.get? entries "hash").bind Selector.ofYaml?
    else Selector.ofYaml? (.mapping entries)
  | some value => Selector.ofYaml? value
  | none => none

/-- A request before a download. -/
def preparationOfEntries (before : Entries) : Preparation :=
  { path := before.text? "path"
    method := before.text? "method"
    inputs := before.textMap "inputs" }

/-- How to download. -/
def ofYaml : Value → Reading Download
  | .mapping download => do
    return {
      selectors := ← selectorsOfEntries download
      before := (Entries.entries? download "before").map preparationOfEntries
      method := Entries.text? download "method"
      infohash := infohashOfEntries? download }
  | _ => throw (.notMapping "download")

end Download

namespace Setting

/-- The setting at a place of the list. -/
def ofYaml (index : Nat) (value : Value) : Reading Setting := do
  let entries ← orFault (.invalidSetting (.notMapping index)) value.entries?
  let name ← orFault (.invalidSetting (.unnamed index)) (Entries.text? entries "name")
  let kind ← orFault (.invalidSetting (.untyped name)) (Entries.text? entries "type")
  return {
    name, kind
    label := Entries.text? entries "label"
    standard := Entries.text? entries "default"
    options := Entries.textMap entries "options" }

/-- The settings from a place of the list on. -/
def listFrom (index : Nat) : List Value → Reading (List Setting)
  | [] => return []
  | value :: rest => do return (← ofYaml index value) :: (← listFrom (index + 1) rest)

/-- The settings. -/
def listOfYaml : Option Value → Reading (List Setting)
  | none => return []
  | some (.sequence items) => listFrom 0 items
  | some _ => throw (.invalidSetting .notList)

end Setting

namespace Definition

/-- A text that the document must have. -/
def requiredText (root : Entries) (name : String) : Reading String :=
  orFault (.missingField name) (root.text? name)

/-- A part that the document may leave out. -/
def optionalPart {α : Type} (read : Value → Reading α) : Option Value → Reading (Option α)
  | none => return none
  | some value => some <$> read value

/-- Who may use the indexer. -/
def accessOfEntries (root : Entries) : Reading Access := do
  let label ← requiredText root "type"
  orFault (.invalidType label) (Access.ofText? label)

/-- A definition from the entries of its document. -/
def ofEntries (root : Entries) : Reading Definition := do
  let search ← Search.ofYaml (root.get? "search")
  let login ← optionalPart Login.ofYaml (root.get? "login")
  let capabilities ← Capabilities.ofYaml (root.get? "caps")
  let download ← optionalPart Download.ofYaml (root.get? "download")
  let settings ← Setting.listOfYaml (root.get? "settings")
  return {
    search, login, capabilities, download, settings
    id := ← requiredText root "id"
    name := ← requiredText root "name"
    description := ← requiredText root "description"
    language := ← requiredText root "language"
    access := ← accessOfEntries root
    encoding := ← requiredText root "encoding"
    links := ← orFault (.missingField "links") ((root.get? "links").map Value.scalars)
    legacyLinks := root.texts "legacylinks"
    requestDelay := root.number? "requestdelay" <|> root.number? "requestDelay"
    followRedirect := (root.truth? "followredirect").getD false
    testLinkTorrent := (root.truth? "testlinktorrent").getD true
    certificates := root.texts "certificates"
    replaces := root.texts "replaces" }

/-- A definition from its document. -/
def ofYaml (document : Value) : Reading Definition := do
  ofEntries (← orFault (.notMapping "definition root") document.entries?)

/-- A definition from its text. -/
def ofText (text : String) : Reading Definition := do
  ofYaml (← orFault .unreadable (Value.read? text))

end Definition

end ReleaseFinder
