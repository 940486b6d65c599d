import ReleaseFinder.Yaml.Lookup

/-!
# Selectors

Which part of a page to take, and how to change its text. A selector may be written as a bare text
or as a mapping; both become a `Selector`. Writing a selector down as a mapping and reading it again
gives the same selector.
-/

namespace ReleaseFinder

/-- A change of the text that a selector has found. -/
structure Filter where
  name : String
  arguments : List String := []
deriving Repr, DecidableEq, Inhabited

/-- A part of a page. -/
structure Selector where
  /-- The path to the part. -/
  selector : String := ""
  /-- A fixed text instead of a part of the page. -/
  text : Option String := none
  /-- The attribute to take instead of the part's text. -/
  attributeName : Option String := none
  /-- What is removed from the part first. -/
  remove : Option String := none
  /-- Texts by the paths that choose among them. -/
  choices : Option (Dictionary String) := none
  filters : List Filter := []
deriving DecidableEq, Inhabited

open Yaml (Value Entries)

/-- A filter from its name, or from a mapping with its name and arguments. -/
def Filter.ofYaml? : Value → Option Filter
  | .mapping entries => do
    return { name := ← Entries.text? entries "name", arguments := Entries.texts entries "args" }
  | value => value.scalar?.map fun name => { name }

/-- The filters of a list. What is no filter is passed over. -/
def Filter.listOfYaml : Value → List Filter
  | .sequence items => items.filterMap Filter.ofYaml?
  | _ => []

namespace Selector

/-- The filters under a name. -/
def filtersNamed (entries : Entries) (name : String) : List Filter :=
  ((entries.get? name).map Filter.listOfYaml).getD []

/-- A selector from the entries of a mapping. -/
def ofEntries (entries : Entries) : Selector :=
  { selector := (entries.text? "selector").getD ""
    text := entries.text? "text"
    attributeName := entries.text? "attribute"
    remove := entries.text? "remove"
    choices := (entries.entries? "case").map (Entries.dictionary Value.scalar?)
    filters := filtersNamed entries "filters" }

/-- A selector from a bare text or a mapping, tagged or not. -/
def ofYaml? : Value → Option Selector
  | .mapping entries => some (ofEntries entries)
  | .tagged _ value => ofYaml? value
  | value => value.scalar?.map fun selector => { selector }

/-- An entry that is written only when there is a value. -/
def entry? (name : String) (value : Option Value) : Entries :=
  (value.map fun value => (Value.text name, value)).toList

/-- A filter as a mapping. -/
def filterToYaml (filter : Filter) : Value :=
  .mapping ((.text "name", .text filter.name) ::
    entry? "args"
      (if filter.arguments.isEmpty then none
        else some (.sequence (filter.arguments.map .text))))

/-- A selector as a mapping. -/
def toYaml (selector : Selector) : Value :=
  .mapping ([(.text "selector", .text selector.selector)] ++
    entry? "text" (selector.text.map .text) ++
    entry? "attribute" (selector.attributeName.map .text) ++
    entry? "remove" (selector.remove.map .text) ++
    entry? "case" (selector.choices.map fun choices =>
      .mapping (choices.entries.map fun choice => (.text choice.1, .text choice.2))) ++
    [(.text "filters", .sequence (selector.filters.map filterToYaml))])

end Selector

end ReleaseFinder
