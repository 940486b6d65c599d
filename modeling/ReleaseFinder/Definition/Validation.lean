import ReleaseFinder.Definition.Reading

/-!
# Validation of definitions

A definition that can be read may still be of no use: its names may be blank, or it may lack the
parts that every search needs.
-/

namespace ReleaseFinder

/-- The parts that every result must have. -/
def requiredSearchFields : List String :=
  ["title", "size", "seeders"]

namespace Definition

/-- The names of the fields that are blank. -/
def blankFields (definition : Definition) : List String :=
  let texts :=
    [("id", definition.id), ("name", definition.name), ("description", definition.description),
      ("language", definition.language), ("encoding", definition.encoding)]
  (texts.filter fun field => Text.blankText field.2).map (·.1) ++
    if definition.links.all Text.blankText then ["links"] else []

/-- The parts of a result that are missing. -/
def missingSearchFields (definition : Definition) : List String :=
  requiredSearchFields.filter fun name => !definition.search.fields.contains name

/-- The definition declares a search mode. -/
def hasModes (definition : Definition) : Bool :=
  definition.capabilities.modes.any fun modes => !modes.isEmpty

/-- What is wrong with a definition. -/
def fault? (definition : Definition) : Option Fault :=
  if !definition.blankFields.isEmpty then some (.blankFields definition.blankFields)
  else if !definition.missingSearchFields.isEmpty then
    some (.missingSearchFields definition.missingSearchFields)
  else if !definition.hasModes then some .missingModes
  else none

/-- The definition itself, unless something is wrong with it. -/
def validated (definition : Definition) : Reading Definition :=
  match definition.fault? with
  | some fault => .error fault
  | none => .ok definition

/-- A definition of use, from its text. -/
def ofValidText (text : String) : Reading Definition := do
  (← ofText text).validated

end Definition

end ReleaseFinder
