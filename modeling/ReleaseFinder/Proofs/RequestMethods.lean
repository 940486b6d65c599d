import ReleaseFinder.Proofs.DocumentParts
import ReleaseFinder.Proofs.DownloadEdits
import ReleaseFinder.Proofs.LetterCase

/-!
# Request methods

The method of a page of results and that of the login are stored in lower case, so a document may
write them with any capitals. The methods of a download and of the request before it are stored as
the document writes them: `POST` and `post` give two different definitions there.
-/

namespace ReleaseFinder

open Yaml (Value Entries Step)

/-- There is no capital ASCII letter in the text. -/
def IsSmall (text : String) : Prop :=
  ∀ c ∈ text.toList, ¬ ('A' ≤ c ∧ c ≤ 'Z')

/-- Lowering leaves no capital letter. -/
theorem isSmall_asciiLower (text : String) : IsSmall (Text.asciiLower text) := by
  intro c member capital
  rw [Text.asciiLower, String.toList_ofList, List.mem_map] at member
  obtain ⟨letter, _, rfl⟩ := member
  have image := Text.toNat_asciiLowerChar letter
  have bounds : 65 ≤ (Text.asciiLowerChar letter).toNat ∧ (Text.asciiLowerChar letter).toNat ≤ 90 :=
    capital
  split_ifs at image with upper <;> omega

/-- The method of requests that name none is in small letters. -/
theorem isSmall_standardMethod : IsSmall standardMethod := by
  have lowered : Text.asciiLower standardMethod = standardMethod := by decide
  exact lowered ▸ isSmall_asciiLower standardMethod

/-- What is read of several items is read of each of them. -/
theorem exists_mem_of_mapM_eq_ok {α β : Type} {read : α → Reading β} {items : List α}
    {values : List β} (done : items.mapM read = .ok values) {value : β} (member : value ∈ values) :
    ∃ item ∈ items, read item = .ok value := by
  obtain ⟨place, inside, rfl⟩ := List.getElem_of_mem member
  have each := forall₂_of_mapM_eq_ok done
  have among : place < items.length := each.length_eq ▸ inside
  exact ⟨items[place], List.getElem_mem among, each.get among inside⟩

/-! ## Pages and logins -/

/-- A method that is written is stored in small letters, and so is the standard one. -/
theorem isSmall_stored (written : Option String) :
    IsSmall ((written.map Text.asciiLower).getD standardMethod) := by
  cases written with
  | none => exact isSmall_standardMethod
  | some method => exact isSmall_asciiLower method

/-- The method of a page is in small letters. -/
theorem SearchPath.isSmall_method {value : Value} {page : SearchPath}
    (read : ofYaml value = .ok page) : IsSmall page.method := by
  revert read
  fun_cases SearchPath.ofYaml value with
  | case1 entries =>
    intro read
    obtain ⟨path, _, read⟩ := bind_eq_ok_iff.mp read
    cases read
    exact isSmall_stored _
  | case2 value other =>
    cases value.scalar? with
    | none => exact nofun
    | some path =>
      rintro ⟨⟩
      exact isSmall_standardMethod

/-- The methods of all pages are in small letters. -/
theorem Search.isSmall_method {found : Option Value} {search : Search}
    (read : ofYaml found = .ok search) {page : SearchPath} (member : page ∈ search.paths) :
    IsSmall page.method := by
  obtain ⟨entries, rfl⟩ : ∃ entries, found = some (.mapping entries) := by
    cases found with
    | none => cases read
    | some value =>
      cases value with
      | mapping entries => exact ⟨entries, rfl⟩
      | _ => cases read
  rw [Search.ofYaml, Search.ofEntries_eq] at read
  obtain ⟨paths, pages, read⟩ := bind_eq_ok_iff.mp read
  obtain ⟨rows, _, read⟩ := bind_eq_ok_iff.mp read
  obtain ⟨fields, _, read⟩ := bind_eq_ok_iff.mp read
  cases read
  obtain ⟨listed, given, kept⟩ := bind_eq_ok_iff.mp pages
  have same : listed = paths := by
    cases listed with
    | nil => cases kept
    | cons path rest => exact Except.ok.inj kept
  subst same
  cases single : Entries.text? entries "path" with
  | some path =>
    rw [SearchPath.listOfEntries, single] at given
    cases given
    rw [List.mem_singleton] at member
    exact member ▸ isSmall_standardMethod
  | none =>
    rw [SearchPath.listOfEntries_of_no_path single] at given
    obtain ⟨item, _, read⟩ := exists_mem_of_mapM_eq_ok given member
    exact SearchPath.isSmall_method read

/-- The method of a login is in small letters. -/
theorem Login.isSmall_method {value : Value} {login : Login} (read : ofYaml value = .ok login) :
    IsSmall login.method := by
  cases value with
  | mapping entries =>
    obtain ⟨method, _, read⟩ := bind_eq_ok_iff.mp read
    cases read
    exact isSmall_asciiLower method
  | _ => cases read

/-! ## Spelling -/

/-- The entries with a method written in some way. -/
def writeMethod (method : String) : Entries → Entries :=
  Entries.put "method" (.text method)

/-- A method that is written is found. -/
theorem get?_writeMethod_self (method : String) (entries : Entries) :
    Entries.get? (writeMethod method entries) "method" = some (.text method) := by
  rw [writeMethod, Entries.get?_put_text, if_pos rfl]

/-- Writing a method leaves what lookups of other names find. -/
theorem get?_writeMethod_of_ne (method : String) (entries : Entries) {name : String}
    (other : name ≠ "method") :
    Entries.get? (writeMethod method entries) name = entries.get? name := by
  rw [writeMethod, Entries.get?_put_text, if_neg other]

/-- An edit of entries does not touch scalars. -/
theorem scalar?_changeAt_nil (edit : Entries → Entries) (value : Value) :
    (value.changeAt edit []).scalar? = value.scalar? := by
  rw [Value.changeAt]
  fun_induction Value.mapUntagged _ value with
  | case1 tag value inductionHypothesis => exact inductionHypothesis
  | case2 value plain => cases value <;> rfl

namespace Part

variable {first second : String} (same : Text.asciiLower first = Text.asciiLower second)
include same

/-- A page is read alike for every spelling of its method. -/
theorem alike_page_method (value : Value) :
    page.Alike (value.changeAt (writeMethod first) [])
      (value.changeAt (writeMethod second) []) := by
  cases value with
  | mapping entries =>
    change SearchPath.ofYaml (.mapping _) = SearchPath.ofYaml (.mapping _)
    simp (disch := decide) only [SearchPath.ofYaml, Entries.text?, Entries.texts,
      get?_writeMethod_self, get?_writeMethod_of_ne, Option.bind_some, Value.scalar?,
      Option.map_some, same]
  | tagged tag value =>
    have text : (Value.changeAt (writeMethod first) [] (.tagged tag value)).scalar? =
        (Value.changeAt (writeMethod second) [] (.tagged tag value)).scalar? := by
      rw [scalar?_changeAt_nil, scalar?_changeAt_nil]
    exact congrArg
      (fun text : Option String => orFault _ (text.map fun path => ({ path } : SearchPath))) text
  | _ => rfl

/-- A login is read alike for every spelling of its method. -/
theorem alike_login_method (value : Value) :
    login.Alike (value.changeAt (writeMethod first) [])
      (value.changeAt (writeMethod second) []) := by
  cases value with
  | mapping entries =>
    change Login.ofYaml (.mapping _) = Login.ofYaml (.mapping _)
    simp (disch := decide) only [Login.ofYaml, Entries.text?, Entries.texts, Entries.textMap,
      Entries.entries?, get?_writeMethod_self, get?_writeMethod_of_ne, Option.bind_some,
      Value.scalar?, orFault, bind, Except.bind, same]
  | _ => rfl

end Part

/-! ## Downloads -/

namespace Download

/-- The part with another method. -/
def withMethod (method : String) (download : Download) : Download :=
  { download with method := some method }

/-- The part with another method of the request before the download, if there is one. -/
def withPreparationMethod (method : String) (download : Download) : Download :=
  { download with
    before := download.before.map fun before => { before with method := some method } }

/-- The method of a download is stored as it is written. -/
theorem ofYaml_writeMethod (method : String) (download : Entries) :
    ofYaml (.mapping (writeMethod method download)) =
      withMethod method <$> ofYaml (.mapping download) := by
  simp (disch := decide) only [ofYaml, selectorsOfEntries, infohashOfEntries?, Entries.entries?,
    Entries.text?, get?_writeMethod_self, get?_writeMethod_of_ne, Option.bind_some, Value.scalar?,
    map_bind, map_pure, withMethod]

/-- The method of the request before it is stored as it is written. -/
theorem preparationOfEntries_writeMethod (method : String) (before : Entries) :
    preparationOfEntries (writeMethod method before) =
      { preparationOfEntries before with method := some method } := by
  simp (disch := decide) only [preparationOfEntries, Entries.text?, Entries.textMap,
    Entries.entries?, get?_writeMethod_self, get?_writeMethod_of_ne, Option.bind_some,
    Value.scalar?]

/-- The method of the request before a download is stored as it is written. -/
theorem ofYaml_writePreparationMethod (method : String) (download : Entries) :
    ofYaml
      (.mapping (Entries.changeUnder "before" (Value.changeAt (writeMethod method) []) download)) =
      withPreparationMethod method <$> ofYaml (.mapping download) := by
  have keeps := Value.changeAt_eq_null_iff (writeMethod method) []
  refine ofYaml_changeUnder_before keeps ?_
  rw [Entries.entries?_eq, Entries.entries?_eq, Entries.get?_changeUnder keeps, if_pos rfl]
  cases Entries.get? download "before" with
  | none => rfl
  | some value =>
    cases value with
    | mapping inner => exact congrArg some (preparationOfEntries_writeMethod method inner)
    | _ => rfl

/-- Both methods are those that the document writes. -/
theorem methods_as_written {download : Entries} {part : Download}
    (read : ofYaml (.mapping download) = .ok part) :
    part.method = download.text? "method" ∧
      part.before.bind (·.method) = (download.inside "before").text? "method" := by
  obtain ⟨selectors, _, read⟩ := bind_eq_ok_iff.mp read
  cases read
  refine ⟨rfl, ?_⟩
  rw [Entries.inside]
  cases Entries.entries? download "before" <;> rfl

end Download

namespace Definition

/-- The method of downloads. -/
def downloadMethod? (definition : Definition) : Option String :=
  definition.download.bind (·.method)

/-- The method of the request before a download. -/
def preparationMethod? (definition : Definition) : Option String :=
  (definition.download.bind (·.before)).bind (·.method)

/-- The methods about downloads are those that the document writes. -/
theorem download_methods_as_written {document : Value} {definition : Definition}
    (read : ofYaml document = .ok definition) :
    definition.downloadMethod? = (document.inner.inside "download").text? "method" ∧
      definition.preparationMethod? =
        ((document.inner.inside "download").inside "before").text? "method" := by
  obtain ⟨_, read⟩ := (ofYaml_eq_ok_iff document definition).mp read
  obtain ⟨_, _, downloaded⟩ := parts_of_ofEntries read
  rw [downloadMethod?, preparationMethod?, Entries.inside, Entries.entries?_eq]
  cases given : Entries.get? document.inner "download" with
  | none =>
    rw [given] at downloaded
    rw [← Except.ok.inj downloaded]
    exact ⟨rfl, rfl⟩
  | some value =>
    rw [given, optionalPart_some_eq_ok_iff] at downloaded
    obtain ⟨part, held, found⟩ := downloaded
    rw [held]
    cases value with
    | mapping download => exact Download.methods_as_written found
    | _ => cases found

/-- A method is in small letters wherever a page or a login has it, so their spelling makes no
difference. About downloads, the methods are those that the document writes, whatever their letters:
another spelling gives the same definition with this spelling. -/
theorem methods_are_small_but_for_downloads (document : Value) :
    (∀ definition, ofYaml document = .ok definition →
        (∀ page ∈ definition.search.paths, IsSmall page.method) ∧
          (∀ login ∈ definition.login, IsSmall login.method) ∧
          definition.downloadMethod? = (document.inner.inside "download").text? "method" ∧
          definition.preparationMethod? =
            ((document.inner.inside "download").inside "before").text? "method") ∧
      (∀ way part, Part.document.at? way = some part → part = .page ∨ part = .login →
        ∀ first second, Text.sameLetters first second = true →
          ofYaml (document.changeAt (writeMethod first) way) =
            ofYaml (document.changeAt (writeMethod second) way)) ∧
      ∀ method,
        ofYaml (document.changeAt (writeMethod method) downloadWay) =
            mapDownload (.withMethod method) <$> ofYaml document ∧
          ofYaml (document.changeAt (writeMethod method) preparationWay) =
            mapDownload (.withPreparationMethod method) <$> ofYaml document := by
  refine ⟨?stored, ?spelled, ?written⟩
  case stored =>
    intro definition read
    obtain ⟨_, parts⟩ := (ofYaml_eq_ok_iff document definition).mp read
    obtain ⟨searched, loggedIn, _⟩ := parts_of_ofEntries parts
    refine ⟨fun page member => Search.isSmall_method searched member, fun login member => ?_,
      download_methods_as_written read⟩
    rw [Option.mem_def] at member
    rw [member] at loggedIn
    cases given : Entries.get? document.inner "login" with
    | none =>
      rw [given] at loggedIn
      cases loggedIn
    | some value =>
      rw [given, optionalPart_some_eq_ok_iff] at loggedIn
      obtain ⟨found, same, read⟩ := loggedIn
      rw [Option.some.inj same]
      exact Login.isSmall_method read
  case spelled =>
    intro way part reached stored first second same
    have lowered : Text.asciiLower first = Text.asciiLower second := by
      simpa [Text.sameLetters] using same
    refine Part.alike_changeAt reached ?_ document
    rcases stored with rfl | rfl
    · exact Part.alike_page_method lowered
    · exact Part.alike_login_method lowered
  case written =>
    intro method
    refine ⟨ofYaml_changeAt_download document fun download _ =>
      Download.ofYaml_writeMethod method download, ?_⟩
    have outside : document.changeAt (writeMethod method) preparationWay = document.changeAt
        (Entries.changeUnder "before" (Value.changeAt (writeMethod method) [])) downloadWay :=
      Value.changeAt_append_under (writeMethod method) "before" downloadWay [] document
    rw [outside]
    exact ofYaml_changeAt_download document fun download _ =>
      Download.ofYaml_writePreparationMethod method download

/-- A document that writes the method of downloads in capitals. -/
def shouting : Value :=
  documentWithDownload [(.text "method", .text "POST")]

/-- The page of the document may have its method in any letters. -/
theorem shouting_page_may_shout :
    (∃ definition, ofYaml shouting = .ok definition ∧
        (∀ page ∈ definition.search.paths, IsSmall page.method) ∧
        definition.downloadMethod? = some "POST") ∧
      ofYaml (shouting.changeAt (writeMethod "Post") [.under "search", .under "paths", .item 0]) =
        ofYaml
          (shouting.changeAt (writeMethod "post") [.under "search", .under "paths", .item 0]) := by
  obtain ⟨stored, spelled, _⟩ := methods_are_small_but_for_downloads shouting
  obtain ⟨pages, _, written, _⟩ := stored _ rfl
  exact ⟨⟨_, rfl, pages, written⟩, spelled _ .page rfl (Or.inl rfl) "Post" "post" (by decide)⟩

/-- The capitals are stored, and the same method in small letters gives another definition. -/
theorem shouted_download_method_stays :
    (ofYaml shouting).map downloadMethod? = .ok (some "POST") ∧ ¬ IsSmall "POST" ∧
      Text.sameLetters "POST" "post" = true ∧
      ofYaml (shouting.changeAt (writeMethod "POST") downloadWay) ≠
        ofYaml (shouting.changeAt (writeMethod "post") downloadWay) := by
  have capital : ¬ IsSmall "POST" := fun small => small 'P' (by decide) (by decide)
  have shouted : (ofYaml (shouting.changeAt (writeMethod "POST") downloadWay)).map downloadMethod? =
      .ok (some "POST") := rfl
  have spoken : (ofYaml (shouting.changeAt (writeMethod "post") downloadWay)).map downloadMethod? =
      .ok (some "post") := rfl
  refine ⟨rfl, capital, by decide, fun same => ?_⟩
  rw [same, spoken] at shouted
  exact absurd (Option.some.inj (Except.ok.inj shouted)) (by decide)

end Definition

end ReleaseFinder
