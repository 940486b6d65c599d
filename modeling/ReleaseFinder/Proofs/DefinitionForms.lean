import ReleaseFinder.Proofs.RecordForms

/-!
# Forms of definitions

A definition is a record of records. For each of them its slots are listed once, in the order in
which they are written; that what is written comes from these slots, that reading them gives the
record back, and that nothing in them is null, all follow from the kinds of its slots.

Only values that may be absent and two lists are ever left out, and their standards when they are
read are the absent value and the empty list. Other fields have standards as well, among them one
that is true; those do not matter for what has been written, since these slots are always written.
-/

namespace ReleaseFinder

/-! ## Filters and selectors -/

/-- The slots of a filter. -/
def Filter.slots (filter : Filter) : List Slot :=
  [Form.text.always "name" filter.name, Form.text.unlessEmpty "args" filter.arguments]

/-- A filter is written as the members of its slots. -/
theorem Filter.toTree_eq (filter : Filter) :
    filter.toTree = .record (Slot.members filter.slots) := by
  simp [Filter.toTree, Filter.slots, textsTree_eq]

/-- Reading the members of its slots gives the filter back. -/
theorem Filter.ofTree?_slots (filter : Filter) :
    Filter.ofTree? (.record (Slot.members filter.slots)) = some filter := by
  refine Slot.read_record rfl (by decide) ?_
  rintro fields ⟨name, arguments, _⟩
  refine bind_of_eq_some name.required ?_
  exact bind_of_eq_some arguments.emptyByDefault rfl

/-- Filters. -/
def Form.filter : Form Filter :=
  .ofSlots Filter.toTree Filter.ofTree? Filter.slots Filter.toTree_eq Filter.ofTree?_slots

/-- The form of filters writes them by `Filter.toTree`. -/
@[simp] theorem Form.write_filter : Form.filter.write = Filter.toTree :=
  rfl

/-- Nothing in a filter is null. -/
@[simp] theorem Filter.nullFree (filter : Filter) : filter.toTree.NullFree := by
  rw [Filter.toTree_eq, Slot.nullFree_record_iff]
  simp [Filter.slots]

/-- The slots of a selector. -/
def Selector.slots (selector : Selector) : List Slot :=
  [Form.text.always "selector" selector.selector, Form.text.ifGiven "text" selector.text,
    Form.text.ifGiven "attribute" selector.attributeName,
      Form.text.ifGiven "remove" selector.remove,
    Form.text.dictionary.ifGiven "case" selector.choices,
    Form.filter.list.always "filters" selector.filters]

/-- A selector is written as the members of its slots. -/
theorem Selector.toTree_eq (selector : Selector) :
    selector.toTree = .record (Slot.members selector.slots) := by
  simp [Selector.toTree, Selector.slots, textMapTree]

/-- Reading the members of its slots gives the selector back. -/
theorem Selector.ofTree?_slots (selector : Selector) :
    Selector.ofTree? (.record (Slot.members selector.slots)) = some selector := by
  refine Slot.read_record rfl (by decide) ?_
  rintro fields ⟨path, text, attributeName, remove, choices, filters, _⟩
  refine bind_of_eq_some (path.withDefault _) ?_
  refine bind_of_eq_some text.optional ?_
  refine bind_of_eq_some attributeName.optional ?_
  refine bind_of_eq_some remove.optional ?_
  refine bind_of_eq_some choices.optional ?_
  exact bind_of_eq_some (filters.withDefault _) rfl

/-- Selectors. -/
def Form.selector : Form Selector :=
  .ofSlots Selector.toTree Selector.ofTree? Selector.slots Selector.toTree_eq Selector.ofTree?_slots

/-- The form of selectors writes them by `Selector.toTree`. -/
@[simp] theorem Form.write_selector : Form.selector.write = Selector.toTree :=
  rfl

/-- Nothing in a selector is null. -/
@[simp] theorem Selector.nullFree (selector : Selector) : selector.toTree.NullFree := by
  rw [Selector.toTree_eq, Slot.nullFree_record_iff]
  simp [Selector.slots]

/-! ## Capabilities -/

/-- The slots of a category. -/
def CategoryMapping.slots (mapping : CategoryMapping) : List Slot :=
  [Form.text.always "id" mapping.id, Form.text.always "cat" mapping.category,
    Form.text.ifGiven "desc" mapping.description, Form.bool.always "default" mapping.byDefault]

/-- A category is written as the members of its slots. -/
theorem CategoryMapping.toTree_eq (mapping : CategoryMapping) :
    mapping.toTree = .record (Slot.members mapping.slots) := by
  simp [CategoryMapping.toTree, CategoryMapping.slots]

/-- Reading the members of its slots gives the category back. -/
theorem CategoryMapping.ofTree?_slots (mapping : CategoryMapping) :
    CategoryMapping.ofTree? (.record (Slot.members mapping.slots)) = some mapping := by
  refine Slot.read_record rfl (by decide) ?_
  rintro fields ⟨id, category, description, byDefault, _⟩
  refine bind_of_eq_some id.required ?_
  refine bind_of_eq_some category.required ?_
  refine bind_of_eq_some description.optional ?_
  exact bind_of_eq_some (byDefault.withDefault _) rfl

/-- Categories. -/
def Form.categoryMapping : Form CategoryMapping :=
  .ofSlots CategoryMapping.toTree CategoryMapping.ofTree? CategoryMapping.slots
    CategoryMapping.toTree_eq CategoryMapping.ofTree?_slots

/-- The form of categories writes them by `CategoryMapping.toTree`. -/
@[simp] theorem Form.write_categoryMapping : Form.categoryMapping.write = CategoryMapping.toTree :=
  rfl

/-- Nothing in a category is null. -/
@[simp] theorem CategoryMapping.nullFree (mapping : CategoryMapping) : mapping.toTree.NullFree := by
  rw [CategoryMapping.toTree_eq, Slot.nullFree_record_iff]
  simp [CategoryMapping.slots]

/-- The slots of capabilities. -/
def Capabilities.slots (capabilities : Capabilities) : List Slot :=
  [Form.text.list.dictionary.ifGiven "modes" capabilities.modes,
    Form.text.dictionary.always "categories" capabilities.categories,
    Form.categoryMapping.list.always "category_mappings" capabilities.categoryMappings]

/-- Capabilities are written as the members of their slots. -/
theorem Capabilities.toTree_eq (capabilities : Capabilities) :
    capabilities.toTree = .record (Slot.members capabilities.slots) := by
  simp [Capabilities.toTree, Capabilities.slots, textsTree_eq, textMapTree, listMapTree]

/-- Reading the members of their slots gives the capabilities back. -/
theorem Capabilities.ofTree?_slots (capabilities : Capabilities) :
    Capabilities.ofTree? (.record (Slot.members capabilities.slots)) = some capabilities := by
  refine Slot.read_record rfl (by decide) ?_
  rintro fields ⟨modes, categories, categoryMappings, _⟩
  refine bind_of_eq_some modes.optional ?_
  refine bind_of_eq_some (categories.withDefault _) ?_
  exact bind_of_eq_some (categoryMappings.withDefault _) rfl

/-- Capabilities. -/
def Form.capabilities : Form Capabilities :=
  .ofSlots Capabilities.toTree Capabilities.ofTree? Capabilities.slots
    Capabilities.toTree_eq Capabilities.ofTree?_slots

/-- The form of capabilities writes them by `Capabilities.toTree`. -/
@[simp] theorem Form.write_capabilities : Form.capabilities.write = Capabilities.toTree :=
  rfl

/-- Nothing in capabilities is null. -/
@[simp] theorem Capabilities.nullFree (capabilities : Capabilities) :
    capabilities.toTree.NullFree := by
  rw [Capabilities.toTree_eq, Slot.nullFree_record_iff]
  simp [Capabilities.slots]

/-! ## Searches -/

/-- The slots of a page of results. -/
def SearchPath.slots (page : SearchPath) : List Slot :=
  [Form.text.always "path" page.path, Form.text.list.always "categories" page.categories,
    Form.text.always "method" page.method]

/-- A page of results is written as the members of its slots. -/
theorem SearchPath.toTree_eq (page : SearchPath) :
    page.toTree = .record (Slot.members page.slots) := by
  simp [SearchPath.toTree, SearchPath.slots, textsTree_eq]

/-- Reading the members of its slots gives the page back. -/
theorem SearchPath.ofTree?_slots (page : SearchPath) :
    SearchPath.ofTree? (.record (Slot.members page.slots)) = some page := by
  refine Slot.read_record rfl (by decide) ?_
  rintro fields ⟨path, categories, method, _⟩
  refine bind_of_eq_some path.required ?_
  refine bind_of_eq_some (categories.withDefault _) ?_
  exact bind_of_eq_some (method.withDefault _) rfl

/-- Pages of results. -/
def Form.searchPath : Form SearchPath :=
  .ofSlots SearchPath.toTree SearchPath.ofTree? SearchPath.slots
    SearchPath.toTree_eq SearchPath.ofTree?_slots

/-- The form of pages of results writes them by `SearchPath.toTree`. -/
@[simp] theorem Form.write_searchPath : Form.searchPath.write = SearchPath.toTree :=
  rfl

/-- Nothing in a page of results is null. -/
@[simp] theorem SearchPath.nullFree (page : SearchPath) : page.toTree.NullFree := by
  rw [SearchPath.toTree_eq, Slot.nullFree_record_iff]
  simp [SearchPath.slots]

/-- The slots of a search. -/
def Search.slots (search : Search) : List Slot :=
  [Form.searchPath.list.always "paths" search.paths,
    Form.text.dictionary.always "inputs" search.inputs,
    Form.text.list.dictionary.always "headers" search.headers,
    Form.filter.list.always "keywords_filters" search.keywordsFilters,
    Form.selector.always "rows" search.rows, Form.selector.dictionary.always "fields" search.fields]

/-- A search is written as the members of its slots. -/
theorem Search.toTree_eq (search : Search) :
    search.toTree = .record (Slot.members search.slots) := by
  simp [Search.toTree, Search.slots, textsTree_eq, textMapTree, listMapTree]

/-- Reading the members of its slots gives the search back. -/
theorem Search.ofTree?_slots (search : Search) :
    Search.ofTree? (.record (Slot.members search.slots)) = some search := by
  refine Slot.read_record rfl (by decide) ?_
  rintro fields ⟨paths, inputs, headers, keywordsFilters, rows, parts, _⟩
  refine bind_of_eq_some paths.required ?_
  refine bind_of_eq_some (inputs.withDefault _) ?_
  refine bind_of_eq_some (headers.withDefault _) ?_
  refine bind_of_eq_some (keywordsFilters.withDefault _) ?_
  refine bind_of_eq_some rows.required ?_
  exact bind_of_eq_some parts.required rfl

/-- Searches. -/
def Form.search : Form Search :=
  .ofSlots Search.toTree Search.ofTree? Search.slots Search.toTree_eq Search.ofTree?_slots

/-- The form of searches writes them by `Search.toTree`. -/
@[simp] theorem Form.write_search : Form.search.write = Search.toTree :=
  rfl

/-- Nothing in a search is null. -/
@[simp] theorem Search.nullFree (search : Search) : search.toTree.NullFree := by
  rw [Search.toTree_eq, Slot.nullFree_record_iff]
  simp [Search.slots]

/-! ## Logins -/

/-- The slots of the test of a login. -/
def LoginTest.slots (test : LoginTest) : List Slot :=
  [Form.text.ifGiven "path" test.path, Form.text.ifGiven "selector" test.selector]

/-- The test of a login is written as the members of its slots. -/
theorem LoginTest.toTree_eq (test : LoginTest) :
    test.toTree = .record (Slot.members test.slots) := by
  simp [LoginTest.toTree, LoginTest.slots]

/-- Reading the members of its slots gives the test back. -/
theorem LoginTest.ofTree?_slots (test : LoginTest) :
    LoginTest.ofTree? (.record (Slot.members test.slots)) = some test := by
  refine Slot.read_record rfl (by decide) ?_
  rintro fields ⟨path, selector, _⟩
  refine bind_of_eq_some path.optional ?_
  exact bind_of_eq_some selector.optional rfl

/-- Tests of logins. -/
def Form.loginTest : Form LoginTest :=
  .ofSlots LoginTest.toTree LoginTest.ofTree? LoginTest.slots LoginTest.toTree_eq
    LoginTest.ofTree?_slots

/-- The form of tests of logins writes them by `LoginTest.toTree`. -/
@[simp] theorem Form.write_loginTest : Form.loginTest.write = LoginTest.toTree :=
  rfl

/-- Nothing in the test of a login is null. -/
@[simp] theorem LoginTest.nullFree (test : LoginTest) : test.toTree.NullFree := by
  rw [LoginTest.toTree_eq, Slot.nullFree_record_iff]
  simp [LoginTest.slots]

/-- The slots of a captcha. -/
def Captcha.slots (captcha : Captcha) : List Slot :=
  [Form.text.always "type" captcha.kind, Form.text.ifGiven "selector" captcha.selector,
    Form.text.ifGiven "input" captcha.input]

/-- A captcha is written as the members of its slots. -/
theorem Captcha.toTree_eq (captcha : Captcha) :
    captcha.toTree = .record (Slot.members captcha.slots) := by
  simp [Captcha.toTree, Captcha.slots]

/-- Reading the members of its slots gives the captcha back. -/
theorem Captcha.ofTree?_slots (captcha : Captcha) :
    Captcha.ofTree? (.record (Slot.members captcha.slots)) = some captcha := by
  refine Slot.read_record rfl (by decide) ?_
  rintro fields ⟨kind, selector, input, _⟩
  refine bind_of_eq_some kind.required ?_
  refine bind_of_eq_some selector.optional ?_
  exact bind_of_eq_some input.optional rfl

/-- Captchas. -/
def Form.captcha : Form Captcha :=
  .ofSlots Captcha.toTree Captcha.ofTree? Captcha.slots Captcha.toTree_eq Captcha.ofTree?_slots

/-- The form of captchas writes them by `Captcha.toTree`. -/
@[simp] theorem Form.write_captcha : Form.captcha.write = Captcha.toTree :=
  rfl

/-- Nothing in a captcha is null. -/
@[simp] theorem Captcha.nullFree (captcha : Captcha) : captcha.toTree.NullFree := by
  rw [Captcha.toTree_eq, Slot.nullFree_record_iff]
  simp [Captcha.slots]

/-- The slots of a login. -/
def Login.slots (login : Login) : List Slot :=
  [Form.text.always "method" login.method, Form.text.always "path" login.path,
    Form.text.ifGiven "submit_path" login.submitPath, Form.text.ifGiven "form" login.form,
    Form.text.dictionary.always "inputs" login.inputs,
      Form.selector.list.always "error" login.errors,
    Form.loginTest.ifGiven "test" login.test, Form.text.list.always "cookies" login.cookies,
    Form.captcha.ifGiven "captcha" login.captcha]

/-- A login is written as the members of its slots. -/
theorem Login.toTree_eq (login : Login) : login.toTree = .record (Slot.members login.slots) := by
  simp [Login.toTree, Login.slots, textsTree_eq, textMapTree]

/-- Reading the members of its slots gives the login back. -/
theorem Login.ofTree?_slots (login : Login) :
    Login.ofTree? (.record (Slot.members login.slots)) = some login := by
  refine Slot.read_record rfl (by decide) ?_
  rintro fields ⟨method, path, submitPath, form, inputs, errors, test, cookies, captcha, _⟩
  refine bind_of_eq_some method.required ?_
  refine bind_of_eq_some (path.withDefault _) ?_
  refine bind_of_eq_some submitPath.optional ?_
  refine bind_of_eq_some form.optional ?_
  refine bind_of_eq_some (inputs.withDefault _) ?_
  refine bind_of_eq_some (errors.withDefault _) ?_
  refine bind_of_eq_some test.optional ?_
  refine bind_of_eq_some (cookies.withDefault _) ?_
  exact bind_of_eq_some captcha.optional rfl

/-- Logins. -/
def Form.login : Form Login :=
  .ofSlots Login.toTree Login.ofTree? Login.slots Login.toTree_eq Login.ofTree?_slots

/-- The form of logins writes them by `Login.toTree`. -/
@[simp] theorem Form.write_login : Form.login.write = Login.toTree :=
  rfl

/-- Nothing in a login is null. -/
@[simp] theorem Login.nullFree (login : Login) : login.toTree.NullFree := by
  rw [Login.toTree_eq, Slot.nullFree_record_iff]
  simp [Login.slots]

/-! ## Downloads and settings -/

/-- The slots of a request before a download. -/
def Preparation.slots (before : Preparation) : List Slot :=
  [Form.text.ifGiven "path" before.path, Form.text.ifGiven "method" before.method,
    Form.text.dictionary.always "inputs" before.inputs]

/-- A request before a download is written as the members of its slots. -/
theorem Preparation.toTree_eq (before : Preparation) :
    before.toTree = .record (Slot.members before.slots) := by
  simp [Preparation.toTree, Preparation.slots, textMapTree]

/-- Reading the members of its slots gives the request back. -/
theorem Preparation.ofTree?_slots (before : Preparation) :
    Preparation.ofTree? (.record (Slot.members before.slots)) = some before := by
  refine Slot.read_record rfl (by decide) ?_
  rintro fields ⟨path, method, inputs, _⟩
  refine bind_of_eq_some path.optional ?_
  refine bind_of_eq_some method.optional ?_
  exact bind_of_eq_some (inputs.withDefault _) rfl

/-- Requests before downloads. -/
def Form.preparation : Form Preparation :=
  .ofSlots Preparation.toTree Preparation.ofTree? Preparation.slots
    Preparation.toTree_eq Preparation.ofTree?_slots

/-- The form of such requests writes them by `Preparation.toTree`. -/
@[simp] theorem Form.write_preparation : Form.preparation.write = Preparation.toTree :=
  rfl

/-- Nothing in a request before a download is null. -/
@[simp] theorem Preparation.nullFree (before : Preparation) : before.toTree.NullFree := by
  rw [Preparation.toTree_eq, Slot.nullFree_record_iff]
  simp [Preparation.slots]

/-- The slots of a download. -/
def Download.slots (download : Download) : List Slot :=
  [Form.selector.list.always "selectors" download.selectors,
    Form.preparation.ifGiven "before" download.before, Form.text.ifGiven "method" download.method,
    Form.selector.ifGiven "infohash" download.infohash]

/-- A download is written as the members of its slots. -/
theorem Download.toTree_eq (download : Download) :
    download.toTree = .record (Slot.members download.slots) := by
  simp [Download.toTree, Download.slots]

/-- Reading the members of its slots gives the download back. -/
theorem Download.ofTree?_slots (download : Download) :
    Download.ofTree? (.record (Slot.members download.slots)) = some download := by
  refine Slot.read_record rfl (by decide) ?_
  rintro fields ⟨selectors, before, method, infohash, _⟩
  refine bind_of_eq_some (selectors.withDefault _) ?_
  refine bind_of_eq_some before.optional ?_
  refine bind_of_eq_some method.optional ?_
  exact bind_of_eq_some infohash.optional rfl

/-- Downloads. -/
def Form.download : Form Download :=
  .ofSlots Download.toTree Download.ofTree? Download.slots Download.toTree_eq Download.ofTree?_slots

/-- The form of downloads writes them by `Download.toTree`. -/
@[simp] theorem Form.write_download : Form.download.write = Download.toTree :=
  rfl

/-- Nothing in a download is null. -/
@[simp] theorem Download.nullFree (download : Download) : download.toTree.NullFree := by
  rw [Download.toTree_eq, Slot.nullFree_record_iff]
  simp [Download.slots]

/-- The slots of a setting. -/
def Setting.slots (setting : Setting) : List Slot :=
  [Form.text.always "name" setting.name, Form.text.always "type" setting.kind,
    Form.text.ifGiven "label" setting.label, Form.text.ifGiven "default" setting.standard,
    Form.text.dictionary.always "options" setting.options]

/-- A setting is written as the members of its slots. -/
theorem Setting.toTree_eq (setting : Setting) :
    setting.toTree = .record (Slot.members setting.slots) := by
  simp [Setting.toTree, Setting.slots, textMapTree]

/-- Reading the members of its slots gives the setting back. -/
theorem Setting.ofTree?_slots (setting : Setting) :
    Setting.ofTree? (.record (Slot.members setting.slots)) = some setting := by
  refine Slot.read_record rfl (by decide) ?_
  rintro fields ⟨name, kind, label, standard, options, _⟩
  refine bind_of_eq_some name.required ?_
  refine bind_of_eq_some kind.required ?_
  refine bind_of_eq_some label.optional ?_
  refine bind_of_eq_some standard.optional ?_
  exact bind_of_eq_some (options.withDefault _) rfl

/-- Settings. -/
def Form.setting : Form Setting :=
  .ofSlots Setting.toTree Setting.ofTree? Setting.slots Setting.toTree_eq Setting.ofTree?_slots

/-- The form of settings writes them by `Setting.toTree`. -/
@[simp] theorem Form.write_setting : Form.setting.write = Setting.toTree :=
  rfl

/-- Nothing in a setting is null. -/
@[simp] theorem Setting.nullFree (setting : Setting) : setting.toTree.NullFree := by
  rw [Setting.toTree_eq, Slot.nullFree_record_iff]
  simp [Setting.slots]

/-! ## Definitions -/

/-- Kinds of access, by their labels. -/
def Form.access : Form Access where
  write access := .text access.label
  read := Access.ofTree?
  read_write access := by
    cases access with
    | everyone => rfl
    | members => rfl
    | partly => rfl
  write_ne_null _ := nofun

/-- The form of a kind of access writes its label. -/
@[simp] theorem Form.write_access (access : Access) :
    Form.access.write access = .text access.label :=
  rfl

/-- The slots of a definition. -/
def Definition.slots (definition : Definition) : List Slot :=
  [Form.text.always "id" definition.id, Form.text.always "name" definition.name,
    Form.text.always "description" definition.description,
    Form.text.always "language" definition.language, Form.access.always "type" definition.access,
    Form.text.always "encoding" definition.encoding, Form.text.list.always "links" definition.links,
    Form.text.unlessEmpty "legacy_links" definition.legacyLinks,
    Form.capabilities.always "capabilities" definition.capabilities,
    Form.search.always "search" definition.search, Form.login.ifGiven "login" definition.login,
    Form.download.ifGiven "download" definition.download,
    Form.setting.list.always "settings" definition.settings,
    Form.float.ifGiven "request_delay" definition.requestDelay,
    Form.bool.always "follow_redirect" definition.followRedirect,
    Form.bool.always "test_link_torrent" definition.testLinkTorrent,
    Form.text.list.always "certificates" definition.certificates,
    Form.text.list.always "replaces" definition.replaces]

/-- A definition is written as the members of its slots. -/
theorem Definition.toTree_eq (definition : Definition) :
    definition.toTree = .record (Slot.members definition.slots) := by
  simp [Definition.toTree, Definition.slots, textsTree_eq]

/-- Reading the members of its slots gives the definition back. -/
theorem Definition.ofTree?_slots (definition : Definition) :
    Definition.ofTree? (.record (Slot.members definition.slots)) = some definition := by
  refine Slot.read_record rfl (by decide) ?_
  rintro fields ⟨id, name, description, language, access, encoding, links, legacyLinks,
    capabilities, search, login, download, settings, requestDelay, followRedirect,
    testLinkTorrent, certificates, replaces, _⟩
  refine bind_of_eq_some id.required ?_
  refine bind_of_eq_some name.required ?_
  refine bind_of_eq_some description.required ?_
  refine bind_of_eq_some language.required ?_
  refine bind_of_eq_some access.required ?_
  refine bind_of_eq_some encoding.required ?_
  refine bind_of_eq_some links.required ?_
  refine bind_of_eq_some legacyLinks.emptyByDefault ?_
  refine bind_of_eq_some capabilities.required ?_
  refine bind_of_eq_some search.required ?_
  refine bind_of_eq_some login.optional ?_
  refine bind_of_eq_some download.optional ?_
  refine bind_of_eq_some (settings.withDefault _) ?_
  refine bind_of_eq_some requestDelay.optional ?_
  refine bind_of_eq_some (followRedirect.withDefault _) ?_
  refine bind_of_eq_some (testLinkTorrent.withDefault _) ?_
  refine bind_of_eq_some (certificates.withDefault _) ?_
  exact bind_of_eq_some (replaces.withDefault _) rfl

/-- Definitions. -/
def Form.definition : Form Definition :=
  .ofSlots Definition.toTree Definition.ofTree? Definition.slots Definition.toTree_eq
    Definition.ofTree?_slots

/-- The time between two requests is the only float of a definition, and nothing else can become
null. -/
theorem Definition.nullFree_iff (definition : Definition) :
    definition.toTree.NullFree ↔
      ∀ delay, definition.requestDelay = some delay → IsFinite delay := by
  rw [Definition.toTree_eq, Slot.nullFree_record_iff]
  simp [Definition.slots]

/-- Definitions are read as they were written. No null is written unless the time between two
requests is not finite. A tree that can be read at all says the same once it has been read and
written again, however it was put down at first. -/
theorem definitions_are_read_as_written :
    (∀ definition : Definition,
      Definition.ofTree? definition.toTree = some definition ∧
        (definition.toTree.NullFree ↔
          ∀ delay, definition.requestDelay = some delay → IsFinite delay)) ∧
      ∀ tree, (Definition.ofTree? tree >>= fun definition => Definition.ofTree? definition.toTree) =
        Definition.ofTree? tree := by
  have back : ∀ definition : Definition, Definition.ofTree? definition.toTree = some definition :=
    Form.definition.read_write
  refine ⟨fun definition => ⟨back definition, definition.nullFree_iff⟩, fun tree => ?_⟩
  cases Definition.ofTree? tree with
  | none => rfl
  | some definition => exact bind_of_eq_some rfl (back definition)

end ReleaseFinder
