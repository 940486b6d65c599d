import ReleaseFinder.Files
import ReleaseFinder.Profile.Record
import ReleaseFinder.Settings.Basic
import ReleaseFinder.Settings.Environment
import ReleaseFinder.Toml.Document

/-!
# Reading settings

Settings from a tree, from the text of a settings file, and from a file with variables laid over it.
-/

namespace ReleaseFinder

/-- How releases are checked and ranked, from a tree. -/
def ScoringSettings.ofTree? (source : TreeSource) (tree : Tree) : Option ScoringSettings := do
  let fields ← Fields.ofTree? source
    ["min_seeders", "min_ratio", "size_range", "preferred_qualities", "blocked_tags",
      "media_type"] [] tree
  some
    { minSeeders := ← fields.withDefault "min_seeders" 0 (Tree.natural? 32)
      minRatio := ← fields.optional "min_ratio" Tree.number?
      sizeRange := ← fields.optional "size_range" (SizeRange.ofTree? source)
      preferredQualities := ← fields.withDefault "preferred_qualities" [] Tree.texts?
      blockedTags := ← fields.withDefault "blocked_tags" [] Tree.texts?
      mediaType := ← fields.withDefault "media_type" .movie (MediaType.ofTree? source) }

/-- How releases are checked and ranked, as a tree. -/
def ScoringSettings.toTree (settings : ScoringSettings) : Tree :=
  .record
    [("min_seeders", .integer settings.minSeeders),
      ("min_ratio", (settings.minRatio.map Tree.float).getD .null),
      ("size_range", (settings.sizeRange.map SizeRange.toTree).getD .null),
      ("preferred_qualities", textsTree settings.preferredQualities),
      ("blocked_tags", textsTree settings.blockedTags),
      ("media_type", .text settings.mediaType.name)]

/-- Where definitions are, from a tree. -/
def DefinitionSettings.ofTree? (source : TreeSource) (tree : Tree) :
    Option DefinitionSettings := do
  let standard : DefinitionSettings := {}
  let fields ← Fields.ofTree? source ["dir", "max_concurrency", "task_timeout_secs"] [] tree
  some
    { folder := ← fields.withDefault "dir" standard.folder Tree.text?
      maxConcurrency :=
        ← fields.withDefault "max_concurrency" standard.maxConcurrency (Tree.natural? 64)
      timeoutSeconds :=
        ← fields.withDefault "task_timeout_secs" standard.timeoutSeconds
          (Tree.natural? 64) }

/-- Where definitions are, as a tree. -/
def DefinitionSettings.toTree (settings : DefinitionSettings) : Tree :=
  .record
    [("dir", .text settings.folder), ("max_concurrency", .integer settings.maxConcurrency),
      ("task_timeout_secs", .integer settings.timeoutSeconds)]

namespace Settings

/-- Settings from a tree. -/
def ofTree? (source : TreeSource) (tree : Tree) : Option Settings := do
  let fields ← Fields.ofTree? source ["scoring", "definitions", "profile"] [] tree
  some
    { scoring := ← fields.withDefault "scoring" {} (ScoringSettings.ofTree? source)
      definitions := ← fields.withDefault "definitions" {} (DefinitionSettings.ofTree? source)
      profile := ← fields.optional "profile" (Profile.ofTree? source) }

/-- Settings as a tree. -/
def toTree (settings : Settings) : Tree :=
  .record
    [("scoring", settings.scoring.toTree), ("definitions", settings.definitions.toTree),
      ("profile", (settings.profile.map Profile.toTree).getD .null)]

/-- Settings from the text of a settings file. -/
def ofText? (text : String) : Option Settings :=
  (Toml.read? text).bind (ofTree? .settings)

/-- A table with this member stands for the member's value. -/
def valueMember : String := "___figment_value_value"

/-- A table with this member cannot be read. -/
def numberMember : String := "___figment_value_id"

mutual

/-- A setting with every table replaced by the value that it stands for. -/
def plainValue? : Tree → Option Tree
  | .list items => do return .list (← plainItems? items)
  | .record members => do
    let members ← plainMembers? members
    if members.any (·.1 == numberMember) then none
    else return (members.lookup valueMember).getD (.record members)
  | tree => some tree

/-- Items with every table replaced by the value that it stands for. -/
def plainItems? : List Tree → Option (List Tree)
  | [] => some []
  | item :: rest => do return (← plainValue? item) :: (← plainItems? rest)

/-- Members with every table replaced by the value that it stands for. -/
def plainMembers? : List (String × Tree) → Option (List (String × Tree))
  | [] => some []
  | (name, tree) :: rest => do return (name, ← plainValue? tree) :: (← plainMembers? rest)

end

/-- The tree of a settings file. The file as a whole is a table that stands for itself. -/
def fileTree? (text : String) : Option Tree := do
  match ← Toml.read? text with
  | .record members => return .record (← plainMembers? members)
  | tree => return tree

/-- Settings from the text of a settings file with variables laid over it. -/
def ofTextWith? (text : String) (environment : List (String × String)) : Option Settings :=
  (fileTree? text).bind fun tree => ofTree? .overlaid (Environment.overlaid tree environment)

end Settings

/-- Why settings cannot be loaded. -/
inductive SettingsProblem where
  | missing (path : String)
  | unreadable
deriving Repr, DecidableEq

/-- What is said about settings that cannot be loaded. -/
def SettingsProblem.message : SettingsProblem → String
  | .missing path => "Configuration file not found: " ++ path
  | .unreadable => "Failed to parse configuration: the text holds no settings"

/-- The settings of a file with variables laid over it, from what reading the file has given. A
folder holds no settings, and leaves them all to the variables. -/
def Settings.load (path : String) (content : Except FileProblem String)
    (environment : List (String × String)) : Except SettingsProblem Settings :=
  let ofText (text : String) : Except SettingsProblem Settings :=
    match Settings.ofTextWith? text environment with
    | some settings => .ok settings
    | none => .error .unreadable
  match content with
  | .ok text => ofText text
  | .error .isFolder => ofText ""
  | .error .missing | .error .notFolder => .error (.missing path)
  | .error _ => .error .unreadable

end ReleaseFinder
