import ReleaseFinder.CommandLine.Arguments
import ReleaseFinder.CommandLine.Exposition
import ReleaseFinder.Definition.Record
import ReleaseFinder.Engine
import ReleaseFinder.Json.Reader
import ReleaseFinder.Json.Writer
import ReleaseFinder.Quality.Points
import ReleaseFinder.Ranking.Record
import ReleaseFinder.Report.Record
import ReleaseFinder.Settings.Record

/-!
# Commands

What each command does: the settings are loaded and checked, the command is run, and its result or
its error is reported, with the counts if they are asked for. Files are reached through
`Surroundings`, so that a run needs no more of the world than that.
-/

namespace ReleaseFinder.CommandLine

/-- What a run needs of the world. -/
structure Surroundings (m : Type → Type) where
  /-- The text of a file. -/
  fileText : String → m (Except FileProblem String)
  /-- The names of the files in a folder. -/
  folderNames : String → m (Except FileProblem (List String))
  /-- The text of the standard input. -/
  inputText : m (Except FileProblem String)

/-- What a run ends with. -/
structure Ending where
  exit : Nat
  output : Option Tree := none
  message : Option String := none
  /-- The lines of counts, if they are asked for. -/
  counts : Option (List String) := none

/-- A path as it is quoted in messages. -/
def quotedPath (path : String) : String :=
  let escape (c : Char) : List Char :=
    match c with
    | '"' => ['\\', '"']
    | '\\' => ['\\', '\\']
    | '\n' => ['\\', 'n']
    | '\r' => ['\\', 'r']
    | '\t' => ['\\', 't']
    | '\x00' => ['\\', '0']
    | _ =>
      if c.toNat < 0x20 ∨ (0x7F ≤ c.toNat ∧ c.toNat < 0xA0) then
        ['\\', 'u', '\x7b'] ++ Nat.toDigits 16 c.toNat ++ ['\x7d']
      else [c]
  String.ofList ('"' :: path.toList.flatMap escape ++ ['"'])

/-- The result of a command, or what is said about it, with what has been counted. -/
abbrev Result := Except String Tree

/-- The titles with their qualities and points. -/
def classify (titles : List String) : Counted Result := do
  let classified ← titles.mapM fun title => do
    let quality ← Engine.classifyTitle title
    pure (Tree.record
      [("title", .text title), ("quality", quality.toTree), ("score", .integer quality.points)])
  pure (.ok (.list classified))

/-- The definition of a file, if nothing is wrong with it. -/
def check (path : String) (content : Except FileProblem String) : Counted Result := do
  match content with
  | .error problem =>
    pure (.error ("Failed to read definition " ++ quotedPath path ++ ": " ++ problem.message))
  | .ok text =>
    match ← Engine.checkDefinition text with
    | .ok definition => pure (.ok definition.toTree)
    | .error fault =>
      pure (.error (path ++ ": " ++ fault.tag ++ " (" ++ fault.message ++ ")"))

/-- What is said about a folder of definitions that cannot be read. -/
def folderMessage (folder : String) (problem : FileProblem) : String :=
  "Failed to read definitions directory " ++ folder ++ ": " ++ problem.message

/-- The ids of a folder's definitions, with the report. -/
def load (limits : PoolLimits) (folder : String)
    (files : Except FileProblem (List DefinitionFile)) : Counted Result := do
  match files with
  | .error problem =>
    pure (.error
      ("Failed to load definitions: " ++ folderMessage folder problem ++ ": " ++ problem.message))
  | .ok files =>
    let catalog ← Engine.loadCatalog limits folder files
    pure (.ok (.record
      [("ids", textsTree (catalog.definitions.map (·.id))), ("report", catalog.report.toTree)]))

/-- How releases are ranked, with what the request says laid over the settings. -/
def RankRequest.options (request : RankRequest) (settings : Settings) : Options :=
  let options := settings.options
  { options with
    searchQuery := request.query
    minSeeders := request.minSeeders.getD options.minSeeders
    preferredQualities :=
      if request.prefer.isEmpty then options.preferredQualities else request.prefer
    blockedTags := options.blockedTags ++ request.block }

/-- The releases of a text. -/
def releasesOf? (text : String) : Option (List Release) :=
  (Json.read? text).bind (Tree.list? (Release.ofTree? .exact))

/-- The releases in the order that the request asks for. -/
def rankReleases (request : RankRequest) (options : Options) (releases : List Release) :
    Counted Tree := do
  let releases ← Engine.classify releases
  if request.explain then
    return .list ((← Engine.assess options releases).map Assessed.toTree)
  else if request.best then
    return ((← Engine.best? options releases).map Ranked.toTree).getD .null
  else return .list ((← Engine.rank options releases).map Ranked.toTree)

/-- The ranking of the releases in a file. -/
def rank (request : RankRequest) (settings : Settings) (content : Except FileProblem String) :
    Counted Result := do
  match content with
  | .error problem =>
    let origin := if request.results = "-" then "stdin" else quotedPath request.results
    pure (.error ("Failed to read search results from " ++ origin ++ ": " ++ problem.message))
  | .ok text =>
    match releasesOf? text with
    | none => pure (.error "Search results must be a JSON array of results: the text is none")
    | some releases => return .ok (← rankReleases request (request.options settings) releases)

section

variable {m : Type → Type} [Monad m]

/-- The definition files of a folder. -/
def definitionFiles (world : Surroundings m) (folder : String) :
    m (Except FileProblem (List DefinitionFile)) := do
  match ← world.folderNames folder with
  | .error problem => pure (.error problem)
  | .ok names =>
    let files ← (names.filter isDefinitionName).mapM fun name => do
      pure ({ name, content := ← world.fileText (joinPath folder name) } : DefinitionFile)
    pure (.ok files)

/-- Runs a command. -/
def execute (world : Surroundings m) (settings : Settings) (command : Command) :
    m (Counted Result) := do
  match command with
  | .classify titles => pure (classify titles)
  | .check file => return check file (← world.fileText file)
  | .load folder =>
    let folder := folder.getD settings.definitions.folder
    return load settings.definitions.limits folder (← definitionFiles world folder)
  | .rank request =>
    let content ←
      if request.results = "-" then world.inputText else world.fileText request.results
    return rank request settings content

/-- The settings of a run, or what is said about them. -/
def loadSettings (world : Surroundings m) (environment : List (String × String)) :
    Option String → m (Except String Settings)
  | none => pure (.ok {})
  | some path => do
    let content ← world.fileText path
    pure ((Settings.load path content environment).mapError fun problem =>
      "Failed to load config from " ++ quotedPath path ++ ": " ++ problem.message)

/-- Settings that make sense. -/
def checkedSettings (settings : Settings) : Except String Settings :=
  match settings.fault? with
  | none => .ok settings
  | some fault => .error ("Configuration validation failed: " ++ fault.message)

/-- Runs a command line. -/
def run (world : Surroundings m) (words : List String) (environment : List (String × String)) :
    m Ending := do
  match Invocation.ofWords words environment with
  | .error .usage => pure { exit := 2 }
  | .error .information => pure { exit := 0 }
  | .ok invocation =>
    match (← loadSettings world environment invocation.settings).bind checkedSettings with
    | .error message => pure { exit := 1, message := some message }
    | .ok settings =>
      let (result, tally) := (← execute world settings invocation.command).run {}
      let counts (succeeded : Bool) : Option (List String) :=
        if invocation.metrics then some (exposition invocation.command succeeded tally) else none
      match result with
      | .ok tree => pure { exit := 0, output := some tree, counts := counts true }
      | .error message => pure { exit := 1, message := some message, counts := counts false }

end

end ReleaseFinder.CommandLine
