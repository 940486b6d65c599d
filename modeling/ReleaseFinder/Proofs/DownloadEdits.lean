import ReleaseFinder.Proofs.DocumentEdits
import ReleaseFinder.Proofs.DocumentGrammar

/-!
# Edits of the part about downloads

What a document says about downloads is read on its own: an edit there changes this part of the
definition and nothing else, and it makes no other reading fail. So two documents that differ there
can be compared through the part alone.
-/

namespace ReleaseFinder

open Yaml (Value Entries Step)

/-- The way to the part about downloads. -/
def downloadWay : List Step := [.under "download"]

/-- The way to the mapping of the infohash. -/
def infohashWay : List Step := [.under "download", .under "infohash"]

/-- The way to the request before a download. -/
def preparationWay : List Step := [.under "download", .under "before"]

/-- A small document with a part about downloads. -/
def documentWithDownload (download : Entries) : Value :=
  .mapping [
    (.text "id", .text "small"), (.text "name", .text "Small"),
    (.text "description", .text "A site"), (.text "language", .text "en"),
    (.text "type", .text "public"), (.text "encoding", .text "UTF-8"),
    (.text "links", .text "https://small.example/"), (.text "caps", .mapping []),
    (.text "search",
      .mapping [(.text "paths", .sequence [.mapping [(.text "path", .text "/find")]]),
      (.text "rows", .text "tr"), (.text "fields", .mapping [])]),
    (.text "download", .mapping download)]

namespace Yaml.Value

/-- An edit behind a step to a name is an edit of the entries in front of the step. -/
theorem changeAt_append_under (edit : Entries → Entries) (name : String) (way rest : List Step)
    (value : Value) :
    value.changeAt edit (way ++ .under name :: rest) =
      value.changeAt (Entries.changeUnder name (changeAt edit rest)) way := by
  induction way generalizing value with
  | nil =>
    rw [List.nil_append, changeAt, changeAt]
    congr 1
    funext value
    cases value <;> rfl
  | cons step way inductionHypothesis =>
    rw [List.cons_append, changeAt, changeAt, funext inductionHypothesis]

/-- An edit of a document's entries is one of what is inside its tags. -/
theorem entries?_changeAt_nil (edit : Entries → Entries) (value : Value) :
    (value.changeAt edit []).entries? = value.entries?.map edit := by
  rw [changeAt, entries?, entries?]
  fun_induction withoutTags value with
  | case1 tag value inductionHypothesis => exact inductionHypothesis
  | case2 value plain => cases value <;> simp_all [mapUntagged, withoutTags]

end Yaml.Value

namespace Definition

/-- The definition with the part about downloads changed, if it has one. -/
def mapDownload (change : Download → Download) (definition : Definition) : Definition :=
  { definition with download := definition.download.map change }

/-- Entries that agree on everything else give definitions that agree on everything else. -/
theorem ofEntries_mapDownload {left right : Entries} {change : Download → Download}
    (others : ∀ name, name ≠ "download" → right.get? name = left.get? name)
    (changed : optionalPart Download.ofYaml (right.get? "download") =
      Option.map change <$> optionalPart Download.ofYaml (left.get? "download")) :
    ofEntries right = mapDownload change <$> ofEntries left := by
  simp (disch := decide) only [ofEntries, changed, others, requiredText, accessOfEntries,
    Entries.text?, Entries.texts, Entries.truth?, Entries.number?, map_bind, map_pure,
    bind_map_left]
  rfl

/-- An edit of the entries about downloads changes this part of the definition. -/
theorem ofYaml_changeAt_download {edit : Entries → Entries} {change : Download → Download}
    (document : Value)
    (changed : ∀ download, document.inner.get? "download" = some (.mapping download) →
      Download.ofYaml (.mapping (edit download)) = change <$> Download.ofYaml (.mapping download)) :
    ofYaml (document.changeAt edit downloadWay) = mapDownload change <$> ofYaml document := by
  have outside := Value.changeAt_append_under edit "download" [] [] document
  rw [downloadWay, ← List.nil_append [Step.under "download"], outside, ofYaml, ofYaml,
    Value.entries?_changeAt_nil]
  cases found : document.entries? with
  | none => rfl
  | some root =>
    have own : document.inner = root := by simp [Value.inner, found]
    rw [own] at changed
    refine ofEntries_mapDownload (fun name other => ?_) ?_
    · exact Entries.get?_changeUnder_of_ne (Value.changeAt_eq_null_iff edit []) other root
    · rw [Entries.get?_changeUnder (Value.changeAt_eq_null_iff edit []), if_pos rfl]
      cases given : Entries.get? root "download" with
      | none => rfl
      | some value =>
        cases value with
        | mapping download =>
          have edited := congrArg (some <$> ·) (changed download given)
          exact edited.trans (by simp only [optionalPart, Functor.map_map, Option.map_some])
        | _ => rfl

/-- A part that is there is read if it can be. -/
theorem optionalPart_some_eq_ok_iff {α : Type} {read : Value → Reading α} {value : Value}
    {part : Option α} :
    optionalPart read (some value) = .ok part ↔
      ∃ found, part = some found ∧ read value = .ok found := by
  rw [optionalPart]
  cases read value with
  | error fault => simp [Functor.map, Except.map]
  | ok found => simp [Functor.map, Except.map, eq_comm]

/-- The parts of a definition are read from the parts of its document. -/
theorem parts_of_ofEntries {root : Entries} {definition : Definition}
    (read : ofEntries root = .ok definition) :
    Search.ofYaml (root.get? "search") = .ok definition.search ∧
      optionalPart Login.ofYaml (root.get? "login") = .ok definition.login ∧
      optionalPart Download.ofYaml (root.get? "download") = .ok definition.download := by
  obtain ⟨search, searched, read⟩ := bind_eq_ok_iff.mp read
  obtain ⟨login, loggedIn, read⟩ := bind_eq_ok_iff.mp read
  obtain ⟨capabilities, _, read⟩ := bind_eq_ok_iff.mp read
  obtain ⟨download, downloaded, read⟩ := bind_eq_ok_iff.mp read
  iterate 8 obtain ⟨_, _, read⟩ := bind_eq_ok_iff.mp read
  cases read
  exact ⟨searched, loggedIn, downloaded⟩

/-- A definition is read from the entries of its document. -/
theorem ofYaml_eq_ok_iff (document : Value) (definition : Definition) :
    ofYaml document = .ok definition ↔
      document.entries?.isSome = true ∧ ofEntries document.inner = .ok definition := by
  rw [ofYaml, Value.inner]
  cases document.entries? with
  | none => simp [orFault, bind, Except.bind]
  | some root => simp [orFault, bind, Except.bind]

end Definition

namespace Download

variable {download : Entries} {change : Value → Value}
  (keeps : ∀ value, change value = .null ↔ value = .null)
include keeps

/-- A change of the infohash changes the selector that is read there. -/
theorem ofYaml_changeUnder_infohash {selector : Option Selector}
    (read : infohashOfEntries? (Entries.changeUnder "infohash" change download) = selector) :
    ofYaml (.mapping (Entries.changeUnder "infohash" change download)) =
      (fun download => { download with infohash := selector }) <$> ofYaml (.mapping download) := by
  simp (disch := decide) only [ofYaml, selectorsOfEntries, Entries.entries?, Entries.text?, read,
    Entries.get?_changeUnder_of_ne keeps, map_bind, map_pure]

/-- A change of the request before a download changes what is read there. -/
theorem ofYaml_changeUnder_before {revise : Preparation → Preparation}
    (read : (Entries.entries? (Entries.changeUnder "before" change download) "before").map
        preparationOfEntries =
      ((Entries.entries? download "before").map preparationOfEntries).map revise) :
    ofYaml (.mapping (Entries.changeUnder "before" change download)) =
      (fun download => { download with before := download.before.map revise }) <$>
        ofYaml (.mapping download) := by
  simp (disch := decide) only [ofYaml, selectorsOfEntries, infohashOfEntries?, Entries.text?, read,
    Entries.get?_changeUnder_of_ne keeps, map_bind, map_pure]

end Download

end ReleaseFinder
