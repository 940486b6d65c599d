import ReleaseFinder.Proofs.DocumentParts
import ReleaseFinder.Proofs.DownloadEdits

/-!
# Null entries

An entry that is null says no more than one that is left out. Everything that a definition's
document is looked up for by name goes through `Entries.get?`, to which the two are the same; so
wherever a name is looked up, putting it to null and leaving it out give one definition or one
fault.

There is one exception. Whether the infohash is a selector itself or holds one as its hash is
decided by whether there is an entry for the hash, and a null is one. With a null hash there is no
infohash at all, and without the entry the rest of the mapping is read as a selector.
-/

namespace ReleaseFinder

open Yaml (Value Entries Step)

/-- An entry that is null matches one that is left out, but for the hash of an infohash. -/
theorem Part.matches_null {part : Part} {name : String} (kept : part = .infohash → name ≠ "hash")
    (entries : Entries) :
    part.Matches (Entries.put name .null entries) (Entries.without name entries) where
  under other := by
    rw [Entries.get?_put_null]
    exact AlikeAs.rel_refl _ _
  hash infohash := by
    have other : "hash" ≠ name := (kept infohash).symm
    rw [Entries.held?_put, Entries.held?_without, if_neg other, if_neg other]

namespace Download

/-- With a null hash, nothing is read. -/
theorem infohashOfYaml?_null_hash (entries : Entries) :
    infohashOfYaml? (.mapping (Entries.put "hash" .null entries)) = none := by
  rw [infohashOfYaml?, Entries.get?_put_null, Entries.held?_put, if_pos rfl, Option.isSome_some,
    if_pos rfl, Entries.get?_eq_bind, Entries.held?_without, if_pos rfl]
  rfl

/-- Without a hash, a selector is read. -/
theorem infohashOfYaml?_without_hash (entries : Entries) :
    infohashOfYaml? (.mapping (Entries.without "hash" entries)) =
      some (Selector.ofEntries (Entries.without "hash" entries)) := by
  rw [infohashOfYaml?, Entries.held?_without, if_pos rfl]
  rfl

/-- The part with another infohash. -/
def withInfohash (selector : Option Selector) (download : Download) : Download :=
  { download with infohash := selector }

/-- An edit of the mapping of the infohash changes the infohash to what is read there. -/
theorem ofYaml_edit_infohash {download inner : Entries} (edit : Entries → Entries)
    (given : Entries.get? download "infohash" = some (.mapping inner)) :
    ofYaml (.mapping (Entries.changeUnder "infohash" (Value.changeAt edit []) download)) =
      withInfohash (infohashOfYaml? (.mapping (edit inner))) <$> ofYaml (.mapping download) := by
  have keeps := Value.changeAt_eq_null_iff edit []
  refine ofYaml_changeUnder_infohash keeps ?_
  rw [Entries.infohashOfEntries?_eq, Entries.get?_changeUnder keeps, if_pos rfl, given]
  rfl

end Download

namespace Definition

/-- An edit of the mapping of the infohash changes the infohash to what is read there. -/
theorem ofYaml_edit_infohash {document : Value} {inner : Entries} (edit : Entries → Entries)
    (given : (document.inner.inside "download").get? "infohash" = some (.mapping inner)) :
    ofYaml (document.changeAt edit infohashWay) =
      mapDownload
        (.withInfohash (Download.infohashOfYaml? (.mapping (edit inner)))) <$> ofYaml document := by
  have outside : document.changeAt edit infohashWay =
      document.changeAt (Entries.changeUnder "infohash" (Value.changeAt edit [])) downloadWay :=
    Value.changeAt_append_under edit "infohash" downloadWay [] document
  rw [outside]
  refine ofYaml_changeAt_download document fun download found => ?_
  rw [Entries.inside_of_get? found] at given
  exact Download.ofYaml_edit_infohash edit given

/-- What is inside something is inside a mapping. -/
theorem exists_mapping_of_inside {entries : Entries} {name other : String} {value : Value}
    (given : (entries.inside name).get? other = some value) :
    ∃ inner, entries.get? name = some (.mapping inner) := by
  rw [Entries.inside, Entries.entries?_eq] at given
  cases found : entries.get? name with
  | none =>
    rw [found] at given
    cases given
  | some held =>
    rw [found] at given
    cases held with
    | mapping inner => exact ⟨inner, rfl⟩
    | _ => cases given

/-- A definition has a part about downloads if its document has one. -/
theorem download_isSome {document value : Value} {definition : Definition}
    (read : ofYaml document = .ok definition)
      (given : document.inner.get? "download" = some value) :
    definition.download.isSome = true := by
  obtain ⟨_, read⟩ := (ofYaml_eq_ok_iff document definition).mp read
  obtain ⟨_, _, downloaded⟩ := parts_of_ofEntries read
  rw [given, optionalPart_some_eq_ok_iff] at downloaded
  obtain ⟨download, held, _⟩ := downloaded
  rw [held]
  rfl

/-- Null is as good as nothing under every name that is looked up, but for the hash of an infohash.
There null leaves the definition without an infohash, and nothing leaves the rest of the mapping as
its selector; so no document with such a mapping gives the same definition for both. -/
theorem null_is_no_entry_but_for_the_hash (document : Value) :
    (∀ way part, Part.document.at? way = some part → part ≠ .fields →
        ∀ name, (part = .infohash → name ≠ "hash") →
          ofYaml (document.changeAt (Entries.put name .null) way) =
            ofYaml (document.changeAt (Entries.without name) way)) ∧
      ∀ inner, (document.inner.inside "download").get? "infohash" = some (.mapping inner) →
        ofYaml (document.changeAt (Entries.put "hash" .null) infohashWay) =
            mapDownload (.withInfohash none) <$> ofYaml document ∧
          ofYaml (document.changeAt (Entries.without "hash") infohashWay) =
            mapDownload
              (.withInfohash (some (Selector.ofEntries (Entries.without "hash" inner)))) <$>
              ofYaml document ∧
          ∀ definition, ofYaml document = .ok definition →
            ofYaml (document.changeAt (Entries.put "hash" .null) infohashWay) ≠
              ofYaml (document.changeAt (Entries.without "hash") infohashWay) := by
  refine ⟨?named, ?hash⟩
  case named =>
    intro way part reached records name kept
    refine Part.alike_changeAt reached (fun value => ?_) document
    exact (Part.shaped_edit (Part.ofEntry?_of_ne records) (Part.matches_null kept) value).alike
  case hash =>
    intro inner given
    have nulled := ofYaml_edit_infohash (Entries.put "hash" .null) given
    have removed := ofYaml_edit_infohash (Entries.without "hash") given
    rw [Download.infohashOfYaml?_null_hash] at nulled
    rw [Download.infohashOfYaml?_without_hash] at removed
    refine ⟨nulled, removed, fun definition read same => ?_⟩
    rw [nulled, removed, read] at same
    have parts := congrArg Definition.download (Except.ok.inj same)
    obtain ⟨download, found⟩ := exists_mapping_of_inside given
    have there := download_isSome read found
    cases held : definition.download with
    | none =>
      rw [held] at there
      cases there
    | some download =>
      rw [mapDownload, mapDownload, held] at parts
      cases parts

/-- A document with an infohash that has a hash and a selector of its own. -/
def hashed : Value :=
  documentWithDownload [(.text "infohash",
    .mapping [(.text "hash", .text "td.hash"), (.text "selector", .text "td")])]

/-- The document is a definition, in which a page without a method and one with a null for it are
alike, and in which the hash may not be put to null instead of leaving it out. -/
theorem hashed_page_may_have_null_method :
    Part.document.at? [.under "search", .under "paths", .item 0] = some .page ∧
      ofYaml (hashed.changeAt (Entries.put "method" .null)
          [.under "search", .under "paths", .item 0]) =
        ofYaml (hashed.changeAt (Entries.without "method")
          [.under "search", .under "paths", .item 0]) ∧
      ofYaml (hashed.changeAt (Entries.put "hash" .null) infohashWay) ≠
        ofYaml (hashed.changeAt (Entries.without "hash") infohashWay) := by
  obtain ⟨named, hash⟩ := null_is_no_entry_but_for_the_hash hashed
  refine ⟨rfl, named _ .page rfl (by decide) "method" (by decide), ?_⟩
  obtain ⟨_, _, differ⟩ :=
    hash [(.text "hash", .text "td.hash"), (.text "selector", .text "td")] rfl
  exact differ _ rfl

/-- A null hash leaves no infohash, and no hash leaves the selector beside it. -/
theorem null_hash_is_not_left_out :
    (ofYaml (hashed.changeAt (Entries.put "hash" .null) infohashWay)).map
        (fun definition => definition.download.map Download.infohash) = .ok (some none) ∧
      (ofYaml (hashed.changeAt (Entries.without "hash") infohashWay)).map
        (fun definition => definition.download.map Download.infohash) =
          .ok (some (some { selector := "td" })) ∧
      ofYaml (hashed.changeAt (Entries.put "hash" .null) infohashWay) ≠
        ofYaml (hashed.changeAt (Entries.without "hash") infohashWay) := by
  have nulled : (ofYaml (hashed.changeAt (Entries.put "hash" .null) infohashWay)).map
      (fun definition => definition.download.map Download.infohash) = .ok (some none) := rfl
  have removed : (ofYaml (hashed.changeAt (Entries.without "hash") infohashWay)).map
      (fun definition => definition.download.map Download.infohash) =
        .ok (some (some { selector := "td" })) := rfl
  refine ⟨nulled, removed, fun same => ?_⟩
  rw [same, removed] at nulled
  cases nulled

end Definition

end ReleaseFinder
