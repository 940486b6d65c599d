/-!
# Faults of definitions

What can be wrong with a definition, with a code, a tag that names what is concerned, and a message.
-/

namespace ReleaseFinder

/-- What can be wrong with the settings of a definition. -/
inductive SettingFault where
  | notList
  | notMapping (index : Nat)
  | unnamed (index : Nat)
  | untyped (name : String)
deriving Repr, DecidableEq

/-- What is said about a setting. -/
def SettingFault.message : SettingFault → String
  | .notList => "settings must be a list"
  | .notMapping index => "#" ++ toString index
  | .unnamed index => "#" ++ toString index ++ " has no name"
  | .untyped name => name ++ " has no type"

/-- What can be wrong with a definition. -/
inductive Fault where
  /-- The text is no document. -/
  | unreadable
  /-- A part that has to be a mapping is none. -/
  | notMapping (part : String)
  | missingSearchPath
  | missingRowsSelector
  | missingFields
  | invalidFieldsFormat
  | invalidSelector (name : String)
  | missingLoginMethod
  | invalidLogin
  | missingCapabilities
  | invalidSetting (fault : SettingFault)
  | invalidType (label : String)
  | missingField (name : String)
  | blankFields (names : List String)
  | missingSearchFields (names : List String)
  | missingModes
deriving Repr, DecidableEq

namespace Fault

/-- The code of a fault. -/
def code : Fault → String
  | .unreadable => "parse_error"
  | .notMapping _ => "parse_error"
  | .missingSearchPath => "missing_search_path"
  | .missingRowsSelector => "missing_rows_selector"
  | .missingFields => "missing_fields"
  | .invalidFieldsFormat => "invalid_fields_format"
  | .invalidSelector _ => "invalid_selector"
  | .missingLoginMethod => "missing_login_method"
  | .invalidLogin => "invalid_login_config"
  | .missingCapabilities => "missing_capabilities"
  | .invalidSetting _ => "invalid_setting"
  | .invalidType _ => "invalid_type"
  | .missingField _ => "missing_required_field"
  | .blankFields _ => "missing_required_fields"
  | .missingSearchFields _ => "missing_search_fields"
  | .missingModes => "missing_capabilities_modes"

/-- The code with the names of what is concerned. -/
def tag (fault : Fault) : String :=
  match fault with
  | .missingField name | .invalidSelector name => fault.code ++ ":" ++ name
  | .blankFields names | .missingSearchFields names =>
    fault.code ++ ":[" ++ ",".intercalate names ++ "]"
  | _ => fault.code

/-- The message of a fault. -/
def message : Fault → String
  | .unreadable => "Failed to parse definition: the text is no document"
  | .notMapping part => "Failed to parse definition: " ++ part ++ " must be a mapping"
  | .missingSearchPath => "Definition has neither search.path nor search.paths"
  | .missingRowsSelector => "Definition is missing search.rows"
  | .missingFields => "Definition is missing search.fields"
  | .invalidFieldsFormat => "search.fields must be a mapping"
  | .invalidSelector name => "Invalid selector for '" ++ name ++ "'"
  | .missingLoginMethod => "Login block is missing a method"
  | .invalidLogin => "Login block must be a mapping"
  | .missingCapabilities => "Definition is missing caps"
  | .invalidSetting fault => "Invalid setting: " ++ fault.message
  | .invalidType label => "Unknown indexer type: " ++ label
  | .missingField name => "Missing required field: " ++ name
  | .blankFields names => "Missing required fields: [" ++ ", ".intercalate names ++ "]"
  | .missingSearchFields names => "Missing search fields: [" ++ ", ".intercalate names ++ "]"
  | .missingModes => "caps does not declare any modes"

end Fault

end ReleaseFinder
