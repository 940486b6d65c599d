/-!
# Files

What the library needs to know of files: how reading a file or a folder can fail, how the parts of a
path are put together, and a tree of files to read from.
-/

namespace ReleaseFinder

/-- Why a file or a folder cannot be read. -/
inductive FileProblem where
  | missing
  | isFolder
  | notFolder
  /-- The bytes are no text. -/
  | notText
  | other (message : String)
deriving Repr, DecidableEq

/-- What the system says about a problem. -/
def FileProblem.message : FileProblem → String
  | .missing => "No such file or directory (os error 2)"
  | .isFolder => "Is a directory (os error 21)"
  | .notFolder => "Not a directory (os error 20)"
  | .notText => "stream did not contain valid UTF-8"
  | .other message => message

/-- The path of a file in a folder. -/
def joinPath (folder name : String) : String :=
  if folder.isEmpty || folder.endsWith "/" then folder ++ name else folder ++ "/" ++ name

/-- The part of a file's name after its last point. A point at the beginning does not count. -/
def extension? (name : String) : Option String :=
  let reversed := name.toList.reverse
  match reversed.dropWhile (· != '.') with
  | '.' :: _ :: _ => some (String.ofList (reversed.takeWhile (· != '.')).reverse)
  | _ => none

/-- A file, with its text if it is one, or a folder. -/
inductive FileKind where
  | file (text : Option String)
  | folder
deriving DecidableEq, Inhabited

/-- Everything that a folder holds, by path from there; the parts of a path are separated by
slashes. -/
abbrev FileTree := List (String × FileKind)

namespace FileTree

/-- The parts of a path. -/
def parts (path : String) : List String :=
  (path.splitOn "/").filter fun part => part != "" && part != "."

/-- The file or folder with these parts. Every folder on the way to a file is there. -/
def node? (tree : FileTree) (path : List String) : Option FileKind :=
  if path.isEmpty then some .folder
  else
    match tree.find? fun entry => parts entry.1 == path with
    | some entry => some entry.2
    | none =>
      if tree.any fun entry => path.isPrefixOf (parts entry.1) then some .folder else none

/-- Where a path leads, part by part from a folder with known parts, and what is there. A path that
leaves the tree leads nowhere. -/
def follow (tree : FileTree) (done : List String) :
    List String → Except FileProblem (List String × FileKind)
  | [] =>
    match tree.node? done with
    | none => throw .missing
    | some found => return (done, found)
  | part :: rest =>
    match tree.node? done with
    | none => throw .missing
    | some (.file _) => throw .notFolder
    | some .folder =>
      if part != ".." then follow tree (done ++ [part]) rest
      else if done.isEmpty then throw .missing
      else follow tree done.dropLast rest

/-- Where a path leads, and what is there. A path that ends in a slash is one of a folder. -/
def find (tree : FileTree) (path : String) : Except FileProblem (List String × FileKind) := do
  if path.isEmpty || path.startsWith "/" then throw .missing
  match ← tree.follow [] (parts path) with
  | (place, .folder) => return (place, .folder)
  | (place, found) =>
    if path.endsWith "/" || path.endsWith "/." then throw .notFolder else return (place, found)

/-- The text of a file. -/
def read (tree : FileTree) (path : String) : Except FileProblem String := do
  match ← tree.find path with
  | (_, .folder) => throw .isFolder
  | (_, .file none) => throw .notText
  | (_, .file (some text)) => return text

/-- The names of the files in a folder. -/
def list (tree : FileTree) (path : String) : Except FileProblem (List String) := do
  match ← tree.find path with
  | (_, .file _) => throw .notFolder
  | (place, .folder) =>
    return tree.filterMap fun entry =>
      match entry.2 with
      | .folder => none
      | .file _ =>
        let names := parts entry.1
        if names.dropLast == place then names.getLast? else none

end FileTree

end ReleaseFinder
