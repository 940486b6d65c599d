import ReleaseFinder.Definition.Basic
import ReleaseFinder.Release.Record
import ReleaseFinder.Profile.Record

/-!
# Records of definitions

Definitions as trees. Absent values are left out when they are written; values that have a standard
may be left out when they are read.
-/

namespace ReleaseFinder

/-- A dictionary from a tree. -/
def Dictionary.ofTree? {α : Type} (value? : Tree → Option α) (tree : Tree) :
    Option (Dictionary α) :=
  (tree.pairs? value?).map .ofList

/-- A dictionary as a tree. -/
def Dictionary.toTree {α : Type} (write : α → Tree) (dictionary : Dictionary α) : Tree :=
  .record (dictionary.entries.map fun entry => (entry.1, write entry.2))

/-- Texts by name from a tree. -/
def textMap? : Tree → Option (Dictionary String) :=
  Dictionary.ofTree? Tree.text?

/-- Lists of texts by name from a tree. -/
def listMap? : Tree → Option (Dictionary (List String)) :=
  Dictionary.ofTree? Tree.texts?

/-- Texts by name as a tree. -/
def textMapTree : Dictionary String → Tree :=
  Dictionary.toTree .text

/-- Lists of texts by name as a tree. -/
def listMapTree : Dictionary (List String) → Tree :=
  Dictionary.toTree textsTree

/-- A member that is written only when the list has items. -/
def nonempty? {α : Type} (name : String) (write : List α → Tree) (items : List α) :
    List (String × Tree) :=
  if items.isEmpty then [] else [(name, write items)]

/-- A filter from a tree. -/
def Filter.ofTree? (tree : Tree) : Option Filter := do
  let fields ← Fields.ofTree? .exact ["name", "args"] [] tree
  some
    { name := ← fields.required "name" Tree.text?
      arguments := ← fields.withDefault "args" [] Tree.texts? }

/-- A filter as a tree. -/
def Filter.toTree (filter : Filter) : Tree :=
  .record ([("name", .text filter.name)] ++ nonempty? "args" textsTree filter.arguments)

/-- A selector from a tree. -/
def Selector.ofTree? (tree : Tree) : Option Selector := do
  let fields ← Fields.ofTree? .exact
    ["selector", "text", "attribute", "remove", "case", "filters"] [] tree
  some
    { selector := ← fields.withDefault "selector" "" Tree.text?
      text := ← fields.optional "text" Tree.text?
      attributeName := ← fields.optional "attribute" Tree.text?
      remove := ← fields.optional "remove" Tree.text?
      choices := ← fields.optional "case" textMap?
      filters := ← fields.withDefault "filters" [] (Tree.list? Filter.ofTree?) }

/-- A selector as a tree. -/
def Selector.toTree (selector : Selector) : Tree :=
  .record ([("selector", .text selector.selector)] ++ member? "text" .text selector.text ++
    member? "attribute" .text selector.attributeName ++ member? "remove" .text selector.remove ++
    member? "case" textMapTree selector.choices ++
    [("filters", .list (selector.filters.map Filter.toTree))])

/-- A category from a tree. -/
def CategoryMapping.ofTree? (tree : Tree) : Option CategoryMapping := do
  let fields ← Fields.ofTree? .exact ["id", "cat", "desc", "default"] [] tree
  some
    { id := ← fields.required "id" Tree.text?
      category := ← fields.required "cat" Tree.text?
      description := ← fields.optional "desc" Tree.text?
      byDefault := ← fields.withDefault "default" false Tree.bool? }

/-- A category as a tree. -/
def CategoryMapping.toTree (mapping : CategoryMapping) : Tree :=
  .record ([("id", .text mapping.id), ("cat", .text mapping.category)] ++
    member? "desc" .text mapping.description ++ [("default", .bool mapping.byDefault)])

/-- Capabilities from a tree. -/
def Capabilities.ofTree? (tree : Tree) : Option Capabilities := do
  let fields ← Fields.ofTree? .exact ["modes", "categories", "category_mappings"] [] tree
  some
    { modes := ← fields.optional "modes" listMap?
      categories := ← fields.withDefault "categories" .empty textMap?
      categoryMappings :=
        ← fields.withDefault "category_mappings" [] (Tree.list? CategoryMapping.ofTree?) }

/-- Capabilities as a tree. -/
def Capabilities.toTree (capabilities : Capabilities) : Tree :=
  .record (member? "modes" listMapTree capabilities.modes ++
    [("categories", textMapTree capabilities.categories),
      ("category_mappings", .list (capabilities.categoryMappings.map CategoryMapping.toTree))])

/-- A page of results from a tree. -/
def SearchPath.ofTree? (tree : Tree) : Option SearchPath := do
  let fields ← Fields.ofTree? .exact ["path", "categories", "method"] [] tree
  some
    { path := ← fields.required "path" Tree.text?
      categories := ← fields.withDefault "categories" [] Tree.texts?
      method := ← fields.withDefault "method" standardMethod Tree.text? }

/-- A page of results as a tree. -/
def SearchPath.toTree (path : SearchPath) : Tree :=
  .record [("path", .text path.path), ("categories", textsTree path.categories),
    ("method", .text path.method)]

/-- How to search, from a tree. -/
def Search.ofTree? (tree : Tree) : Option Search := do
  let fields ← Fields.ofTree? .exact
    ["paths", "inputs", "headers", "keywords_filters", "rows", "fields"] [] tree
  some
    { paths := ← fields.required "paths" (Tree.list? SearchPath.ofTree?)
      inputs := ← fields.withDefault "inputs" .empty textMap?
      headers := ← fields.withDefault "headers" .empty listMap?
      keywordsFilters := ← fields.withDefault "keywords_filters" [] (Tree.list? Filter.ofTree?)
      rows := ← fields.required "rows" Selector.ofTree?
      fields := ← fields.required "fields" (Dictionary.ofTree? Selector.ofTree?) }

/-- How to search, as a tree. -/
def Search.toTree (search : Search) : Tree :=
  .record
    [("paths", .list (search.paths.map SearchPath.toTree)), ("inputs", textMapTree search.inputs),
      ("headers", listMapTree search.headers),
      ("keywords_filters", .list (search.keywordsFilters.map Filter.toTree)),
      ("rows", search.rows.toTree), ("fields", search.fields.toTree Selector.toTree)]

/-- The test of a login from a tree. -/
def LoginTest.ofTree? (tree : Tree) : Option LoginTest := do
  let fields ← Fields.ofTree? .exact ["path", "selector"] [] tree
  some
    { path := ← fields.optional "path" Tree.text?
      selector := ← fields.optional "selector" Tree.text? }

/-- The test of a login as a tree. -/
def LoginTest.toTree (test : LoginTest) : Tree :=
  .record (member? "path" .text test.path ++ member? "selector" .text test.selector)

/-- A captcha from a tree. -/
def Captcha.ofTree? (tree : Tree) : Option Captcha := do
  let fields ← Fields.ofTree? .exact ["type", "selector", "input"] [] tree
  some
    { kind := ← fields.required "type" Tree.text?
      selector := ← fields.optional "selector" Tree.text?
      input := ← fields.optional "input" Tree.text? }

/-- A captcha as a tree. -/
def Captcha.toTree (captcha : Captcha) : Tree :=
  .record ([("type", .text captcha.kind)] ++ member? "selector" .text captcha.selector ++
    member? "input" .text captcha.input)

/-- How to log in, from a tree. -/
def Login.ofTree? (tree : Tree) : Option Login := do
  let fields ← Fields.ofTree? .exact
    ["method", "path", "submit_path", "form", "inputs", "error", "test", "cookies", "captcha"] []
    tree
  some
    { method := ← fields.required "method" Tree.text?
      path := ← fields.withDefault "path" "" Tree.text?
      submitPath := ← fields.optional "submit_path" Tree.text?
      form := ← fields.optional "form" Tree.text?
      inputs := ← fields.withDefault "inputs" .empty textMap?
      errors := ← fields.withDefault "error" [] (Tree.list? Selector.ofTree?)
      test := ← fields.optional "test" LoginTest.ofTree?
      cookies := ← fields.withDefault "cookies" [] Tree.texts?
      captcha := ← fields.optional "captcha" Captcha.ofTree? }

/-- How to log in, as a tree. -/
def Login.toTree (login : Login) : Tree :=
  .record ([("method", .text login.method), ("path", .text login.path)] ++
    member? "submit_path" .text login.submitPath ++ member? "form" .text login.form ++
    [("inputs", textMapTree login.inputs),
      ("error", .list (login.errors.map Selector.toTree))] ++
    member? "test" LoginTest.toTree login.test ++ [("cookies", textsTree login.cookies)] ++
    member? "captcha" Captcha.toTree login.captcha)

/-- A request before a download from a tree. -/
def Preparation.ofTree? (tree : Tree) : Option Preparation := do
  let fields ← Fields.ofTree? .exact ["path", "method", "inputs"] [] tree
  some
    { path := ← fields.optional "path" Tree.text?
      method := ← fields.optional "method" Tree.text?
      inputs := ← fields.withDefault "inputs" .empty textMap? }

/-- A request before a download as a tree. -/
def Preparation.toTree (before : Preparation) : Tree :=
  .record (member? "path" .text before.path ++ member? "method" .text before.method ++
    [("inputs", textMapTree before.inputs)])

/-- How to download, from a tree. -/
def Download.ofTree? (tree : Tree) : Option Download := do
  let fields ← Fields.ofTree? .exact ["selectors", "before", "method", "infohash"] [] tree
  some
    { selectors := ← fields.withDefault "selectors" [] (Tree.list? Selector.ofTree?)
      before := ← fields.optional "before" Preparation.ofTree?
      method := ← fields.optional "method" Tree.text?
      infohash := ← fields.optional "infohash" Selector.ofTree? }

/-- How to download, as a tree. -/
def Download.toTree (download : Download) : Tree :=
  .record ([("selectors", .list (download.selectors.map Selector.toTree))] ++
    member? "before" Preparation.toTree download.before ++
    member? "method" .text download.method ++
    member? "infohash" Selector.toTree download.infohash)

/-- A setting from a tree. -/
def Setting.ofTree? (tree : Tree) : Option Setting := do
  let fields ← Fields.ofTree? .exact ["name", "type", "label", "default", "options"] [] tree
  some
    { name := ← fields.required "name" Tree.text?
      kind := ← fields.required "type" Tree.text?
      label := ← fields.optional "label" Tree.text?
      standard := ← fields.optional "default" Tree.text?
      options := ← fields.withDefault "options" .empty textMap? }

/-- A setting as a tree. -/
def Setting.toTree (setting : Setting) : Tree :=
  .record ([("name", .text setting.name), ("type", .text setting.kind)] ++
    member? "label" .text setting.label ++ member? "default" .text setting.standard ++
    [("options", textMapTree setting.options)])

/-- The kind of access from a tree. -/
def Access.ofTree? (tree : Tree) : Option Access :=
  (tree.variant? .exact).bind ofLabel?

/-- A definition from a tree. -/
def Definition.ofTree? (tree : Tree) : Option Definition := do
  let fields ← Fields.ofTree? .exact
    ["id", "name", "description", "language", "type", "encoding", "links", "legacy_links",
      "capabilities", "search", "login", "download", "settings", "request_delay",
      "follow_redirect", "test_link_torrent", "certificates", "replaces"] [] tree
  some
    { id := ← fields.required "id" Tree.text?
      name := ← fields.required "name" Tree.text?
      description := ← fields.required "description" Tree.text?
      language := ← fields.required "language" Tree.text?
      access := ← fields.required "type" Access.ofTree?
      encoding := ← fields.required "encoding" Tree.text?
      links := ← fields.required "links" Tree.texts?
      legacyLinks := ← fields.withDefault "legacy_links" [] Tree.texts?
      capabilities := ← fields.required "capabilities" Capabilities.ofTree?
      search := ← fields.required "search" Search.ofTree?
      login := ← fields.optional "login" Login.ofTree?
      download := ← fields.optional "download" Download.ofTree?
      settings := ← fields.withDefault "settings" [] (Tree.list? Setting.ofTree?)
      requestDelay := ← fields.optional "request_delay" Tree.number?
      followRedirect := ← fields.withDefault "follow_redirect" false Tree.bool?
      testLinkTorrent := ← fields.withDefault "test_link_torrent" true Tree.bool?
      certificates := ← fields.withDefault "certificates" [] Tree.texts?
      replaces := ← fields.withDefault "replaces" [] Tree.texts? }

/-- A definition as a tree. -/
def Definition.toTree (definition : Definition) : Tree :=
  .record
    ([("id", .text definition.id), ("name", .text definition.name),
      ("description", .text definition.description), ("language", .text definition.language),
      ("type", .text definition.access.label), ("encoding", .text definition.encoding),
      ("links", textsTree definition.links)] ++
    nonempty? "legacy_links" textsTree definition.legacyLinks ++
    [("capabilities", definition.capabilities.toTree), ("search", definition.search.toTree)] ++
    member? "login" Login.toTree definition.login ++
    member? "download" Download.toTree definition.download ++
    [("settings", .list (definition.settings.map Setting.toTree))] ++
    member? "request_delay" .float definition.requestDelay ++
    [("follow_redirect", .bool definition.followRedirect),
      ("test_link_torrent", .bool definition.testLinkTorrent),
      ("certificates", textsTree definition.certificates),
      ("replaces", textsTree definition.replaces)])

end ReleaseFinder
