import ReleaseFinder.Width
import ReleaseFinder.Decimal.Numeral

/-!
# Arguments

The words of a command line: options with and without values, a command, and the command's own
words. An option's value follows it or is attached to it, and does not begin with a hyphen unless it
is attached. After two hyphens every word stands for itself. Two options may stand in front of the
command as well as behind it.

Words are judged from left to right, and asking for help ends the reading. So help is given only if
nothing in front of the place where it is asked for makes the arguments senseless, and nothing
behind that place counts.
-/

namespace ReleaseFinder.CommandLine

/-- What to rank, and how. -/
structure RankRequest where
  /-- The file with the releases; a hyphen stands for the standard input. -/
  results : String
  query : Option String := none
  minSeeders : Option Nat := none
  prefer : List String := []
  block : List String := []
  explain : Bool := false
  best : Bool := false
deriving Repr, DecidableEq

/-- What to do. -/
inductive Command where
  | classify (titles : List String)
  | check (file : String)
  | load (folder : Option String)
  | rank (request : RankRequest)
deriving Repr, DecidableEq

/-- The name of a command. -/
def Command.name : Command → String
  | .classify _ => "classify"
  | .check _ => "check"
  | .load _ => "load"
  | .rank _ => "rank"

/-- A command line. -/
structure Invocation where
  /-- The settings file. -/
  settings : Option String
  metrics : Bool
  command : Command
deriving Repr, DecidableEq

/-- Why there is nothing to do. -/
inductive Halt where
  /-- The arguments make no sense. -/
  | usage
  /-- The arguments ask for help or for the version. -/
  | information
deriving Repr, DecidableEq

/-- An option. -/
inductive OptionName where
  | settings
  | metrics
  | query
  | minSeeders
  | prefer
  | block
  | explain
  | best
  | information
deriving Repr, DecidableEq

/-- The option has a value. -/
def OptionName.hasValue : OptionName → Bool
  | .settings | .query | .minSeeders | .prefer | .block => true
  | _ => false

/-- The option may be given again. -/
def OptionName.isRepeatable : OptionName → Bool
  | .prefer | .block => true
  | _ => false

/-- The names of commands. -/
def commandNames : List String := ["classify", "check", "load", "rank"]

/-- The option with a long name; behind which command the words stand matters. -/
def longOption? (command : Option String) (name : String) : Option OptionName :=
  match name with
  | "config" => some .settings
  | "metrics" => some .metrics
  | "help" => some .information
  | "version" => if command.isNone then some .information else none
  | _ =>
    if command = some "rank" then
      match name with
      | "query" => some .query
      | "min-seeders" => some .minSeeders
      | "prefer" => some .prefer
      | "block" => some .block
      | "explain" => some .explain
      | "best" => some .best
      | _ => none
    else none

/-- The option with a short name. -/
def shortOption? (command : Option String) (name : Char) : Option OptionName :=
  match name with
  | 'c' => some .settings
  | 'h' => some .information
  | 'V' => if command.isNone then some .information else none
  | 'q' => if command = some "rank" then some .query else none
  | _ => none

/-- An option as it is given. -/
structure GivenOption where
  name : OptionName
  value : String := ""
  /-- The value is a word of its own. -/
  apart : Bool := false

/-- Why words are read no further. -/
inductive Stop where
  /-- There are no more. -/
  | finished
  /-- A command is named; its own words follow. -/
  | command (name : String) (rest : List String)
  /-- Help is asked for by an option. -/
  | information
  /-- Help is asked for as a command, about the command that the other words name. -/
  | help (about : List String)
  /-- A word makes no sense. -/
  | senseless

/-- Words told apart. -/
structure Words where
  /-- The options in their order. -/
  options : List GivenOption := []
  /-- The words that belong to no option. -/
  plain : List String := []
  stop : Stop := .finished

/-- The words with an option in front. -/
def Words.withOption (words : Words) (given : GivenOption) : Words :=
  { words with options := given :: words.options }

/-- A word may be the value of an option that stands in front of it. -/
def isValueWord (word : String) : Bool :=
  word = "-" || !"-".isPrefixOf word

/-- An option with the value that is attached to it, if there is one. -/
structure WrittenOption where
  name : OptionName
  value : Option String

/-- A long option, from the word without its hyphens. -/
def longWord? (command : Option String) (word : List Char) : Option WrittenOption := do
  let name := String.ofList (word.takeWhile (· != '='))
  let found ← longOption? command name
  match word.dropWhile (· != '=') with
  | '=' :: value =>
    if found.hasValue then return ⟨found, some (String.ofList value)⟩ else none
  | _ => return ⟨found, none⟩

/-- A short option, from the word without its hyphen. -/
def shortWord? (command : Option String) : List Char → Option WrittenOption
  | [] => none
  | c :: rest => do
    let found ← shortOption? command c
    if found.hasValue then
      match rest with
      | [] => return ⟨found, none⟩
      | '=' :: value => return ⟨found, some (String.ofList value)⟩
      | value => return ⟨found, some (String.ofList value)⟩
    else return ⟨found, none⟩

/-- The option that a word is. -/
def optionWord? (command : Option String) (word : String) : Option WrittenOption :=
  match word.toList with
  | '-' :: '-' :: name => longWord? command name
  | '-' :: name => shortWord? command name
  | _ => none

/-- Tells words apart. In front of a command the first word that belongs to no option is the
command's name. -/
def splitWords (command : Option String) : List String → Words
  | [] => {}
  | word :: rest =>
    if word = "--" then
      if command.isSome then { plain := rest } else { stop := .senseless }
    else if isValueWord word then
      if command.isSome then
        let words := splitWords command rest
        { words with plain := word :: words.plain }
      else if word = "help" then { stop := .help rest }
      else if commandNames.contains word then { stop := .command word rest }
      else { stop := .senseless }
    else
      match optionWord? command word with
      | none => { stop := .senseless }
      | some ⟨.information, _⟩ => { stop := .information }
      | some ⟨name, some value⟩ => (splitWords command rest).withOption { name, value }
      | some ⟨name, none⟩ =>
        if name.hasValue then
          match rest with
          | value :: rest =>
            if isValueWord value then
              (splitWords command rest).withOption { name, value, apart := true }
            else { stop := .senseless }
          | [] => { stop := .senseless }
        else (splitWords command rest).withOption { name }

/-- A path must not be empty. -/
def isPath (word : String) : Bool :=
  !word.isEmpty

/-- A number of seeders. -/
def seeders? (word : String) : Option Nat :=
  (Decimal.readInt? word.toList).bind fun value =>
    if Width.fits 32 value then some value.toNat else none

/-- The value of an option can be meant. -/
def OptionName.accepts (name : OptionName) (value : String) : Bool :=
  match name with
  | .settings => isPath value
  | .minSeeders => (seeders? value).isSome
  | _ => true

/-- The plain words of a command can be meant, so far as they go. -/
def acceptsPlain (command : Option String) (plain : List String) : Bool :=
  command = some "classify" || (decide (plain.length ≤ 1) && plain.all isPath)

namespace Words

/-- The values of an option. -/
def valuesOf (words : Words) (name : OptionName) : List String :=
  (words.options.filter (·.name == name)).map (·.value)

/-- The value of an option that is given at most once. -/
def valueOf (words : Words) (name : OptionName) : Option String :=
  (words.valuesOf name).head?

/-- Whether an option without a value is given. -/
def has (words : Words) (name : OptionName) : Bool :=
  !(words.valuesOf name).isEmpty

/-- The parts of an option's values, which are separated by commas. -/
def partsOf (words : Words) (name : OptionName) : List String :=
  (words.valuesOf name).flatMap (·.splitOn ",")

/-- The words make sense so far as they go: every value can be meant, and no option is given again
that must not be. -/
def isSound (words : Words) (command : Option String) : Bool :=
  acceptsPlain command words.plain && words.options.all fun given =>
    given.name.accepts given.value &&
      (given.name.isRepeatable || decide ((words.valuesOf given.name).length ≤ 1))

/-- The words as they have been judged when a command is named: a value that is a word of its own
right in front of the command has not been looked at yet. -/
def judged (words : Words) : Words :=
  match words.options.getLast? with
  | some ⟨_, _, true⟩ => { words with options := words.options.dropLast }
  | _ => words

end Words

/-- The words behind the command for help name a command, or the command for help itself. -/
def namesCommand : List String → Bool
  | [] => true
  | [name] => name = "help" || commandNames.contains name
  | _ => false

/-- A command from its name and its words. -/
def command? (name : String) (words : Words) : Option Command :=
  match name, words.plain with
  | "classify", [] => none
  | "classify", titles => some (.classify titles)
  | "check", [file] => some (.check file)
  | "load", [] => some (.load none)
  | "load", [folder] => some (.load (some folder))
  | "rank", [results] =>
    if words.has .explain && words.has .best then none
    else some (.rank {
      results
      query := words.valueOf .query
      minSeeders := (words.valueOf .minSeeders).bind seeders?
      prefer := words.partsOf .prefer
      block := words.partsOf .block
      explain := words.has .explain
      best := words.has .best })
  | _, _ => none

/-- The variable that names the settings file when no option does. -/
def settingsVariable : String := "MYDIA_CONFIG"

/-- A command line from the words in front of the command, the command's own words and the variables
of the environment. What stands behind the command counts before what stands in front of it, and the
variable counts last; it is not looked at when the settings file is named on both sides of the
command. -/
def Invocation.ofCommand? (front : Words) (name : String) (own : Words)
    (environment : List (String × String)) : Option Invocation := do
  let given := own.valuesOf .settings ++ front.valuesOf .settings
  let fromVariable := if given.length < 2 then (environment.lookup settingsVariable).toList else []
  if !front.isSound none || !own.isSound (some name) || !fromVariable.all isPath then none
  else
    return {
      settings := (given ++ fromVariable).head?
      metrics := own.has .metrics || front.has .metrics
      command := ← command? name own }

/-- Help, if the words in front of the place where it is asked for make sense. -/
def informed (sound : Bool) : Halt :=
  if sound then .information else .usage

/-- A command line from its words and the variables of the environment. -/
def Invocation.ofWords (words : List String) (environment : List (String × String)) :
    Except Halt Invocation :=
  let front := splitWords none words
  match front.stop with
  | .finished | .senseless => .error .usage
  | .information => .error (informed (front.isSound none))
  | .help about => .error (informed (front.judged.isSound none && namesCommand about))
  | .command name rest =>
    let own := splitWords (some name) rest
    match own.stop with
    | .finished =>
      match Invocation.ofCommand? front name own environment with
      | some invocation => .ok invocation
      | none => .error .usage
    | .information => .error (informed (front.judged.isSound none && own.isSound (some name)))
    | _ => .error .usage

end ReleaseFinder.CommandLine
