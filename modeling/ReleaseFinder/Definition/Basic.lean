import ReleaseFinder.Definition.Selector

/-!
# Definitions

What an indexer definition says: which site it describes, what can be searched for there, how pages
are requested and read, how to log in, and what the user may set.
-/

namespace ReleaseFinder

/-- Who may use an indexer. -/
inductive Access where
  | everyone
  | members
  /-- Members, for a part of the site. -/
  | partly
deriving Repr, DecidableEq, Inhabited

namespace Access

/-- The label of a kind of access. -/
def label : Access → String
  | .everyone => "public"
  | .members => "private"
  | .partly => "semi-private"

/-- The kind of access with exactly this label. -/
def ofLabel? (label : String) : Option Access :=
  if label = "public" then some .everyone
  else if label = "private" then some .members
  else if label = "semi-private" then some .partly
  else none

/-- The kind of access that a label means, in any letter case and with blanks around it. The last
one may be written without its hyphen. -/
def ofText? (text : String) : Option Access :=
  let word := Text.asciiLower (Text.trim text)
  if word = "semiprivate" then some .partly else ofLabel? word

end Access

/-- A category of the site and the category that it belongs to. -/
structure CategoryMapping where
  id : String
  category : String
  description : Option String := none
  byDefault : Bool := false
deriving DecidableEq

/-- What can be searched for. -/
structure Capabilities where
  /-- The search modes with their parameters. -/
  modes : Option (Dictionary (List String)) := none
  categories : Dictionary String := .empty
  categoryMappings : List CategoryMapping := []
deriving DecidableEq

/-- The method of requests that name none. -/
def standardMethod : String := "get"

/-- A page of results. -/
structure SearchPath where
  path : String
  categories : List String := []
  method : String := standardMethod
deriving DecidableEq

/-- How to search. -/
structure Search where
  paths : List SearchPath
  inputs : Dictionary String := .empty
  headers : Dictionary (List String) := .empty
  keywordsFilters : List Filter := []
  /-- The results on a page. -/
  rows : Selector
  /-- The parts of a result by name. -/
  fields : Dictionary Selector
deriving DecidableEq

/-- The page that tells whether a login has succeeded. -/
structure LoginTest where
  path : Option String := none
  selector : Option String := none
deriving DecidableEq

/-- A picture that has to be read by a person. -/
structure Captcha where
  kind : String
  selector : Option String := none
  input : Option String := none
deriving DecidableEq

/-- How to log in. -/
structure Login where
  method : String
  path : String := ""
  submitPath : Option String := none
  /-- The selector of the form. -/
  form : Option String := none
  inputs : Dictionary String := .empty
  /-- What is on the page when the login has failed. -/
  errors : List Selector := []
  test : Option LoginTest := none
  cookies : List String := []
  captcha : Option Captcha := none
deriving DecidableEq

/-- A request before a download. -/
structure Preparation where
  path : Option String := none
  method : Option String := none
  inputs : Dictionary String := .empty
deriving DecidableEq

/-- How to download. -/
structure Download where
  selectors : List Selector := []
  before : Option Preparation := none
  method : Option String := none
  infohash : Option Selector := none
deriving DecidableEq

/-- A value that the user may set. -/
structure Setting where
  name : String
  kind : String
  label : Option String := none
  standard : Option String := none
  options : Dictionary String := .empty
deriving DecidableEq

/-- An indexer definition. -/
structure Definition where
  id : String
  name : String
  description : String
  language : String
  access : Access
  encoding : String
  links : List String
  legacyLinks : List String := []
  capabilities : Capabilities
  search : Search
  login : Option Login := none
  download : Option Download := none
  settings : List Setting := []
  /-- The seconds between two requests. -/
  requestDelay : Option Float := none
  followRedirect : Bool := false
  testLinkTorrent : Bool := true
  certificates : List String := []
  replaces : List String := []

namespace Definition

/-- Whether a search mode is declared. -/
def supportsMode (definition : Definition) (mode : String) : Bool :=
  definition.capabilities.modes.any (·.contains mode)

/-- Whether the indexer wants a login. -/
def requiresLogin (definition : Definition) : Bool :=
  definition.login.isSome

end Definition

end ReleaseFinder
