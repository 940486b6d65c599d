import ReleaseFinder.CommandLine.Run

/-!
# The program

Runs a command line in the system's own surroundings. A result goes to the standard output, messages
and counts go to the standard error.
-/

namespace ReleaseFinder.CommandLine

/-- Why the system could not read something. -/
def problemOf : IO.Error → FileProblem
  | .noFileOrDirectory .. => .missing
  | .inappropriateType _ 20 _ => .notFolder
  | .inappropriateType _ 21 _ => .isFolder
  | error => .other (toString error)

/-- What reading gives, or why it could not be done. -/
def attempt {α : Type} (action : IO α) : IO (Except FileProblem α) := do
  match ← action.toBaseIO with
  | .ok value => pure (.ok value)
  | .error error => pure (.error (problemOf error))

/-- The text of bytes. -/
def textOf (bytes : ByteArray) : Except FileProblem String :=
  match String.fromUTF8? bytes with
  | some text => .ok text
  | none => .error .notText

/-- The files of the system. -/
def systemFiles : Surroundings IO where
  fileText path := do
    return (← attempt (IO.FS.readBinFile path)).bind textOf
  folderNames path := attempt do
    let entries ← ((← IO.currentDir) / path).readDir
    let files ← entries.toList.filterM fun entry => do
      return (← entry.path.symlinkMetadata).type == .file
    return files.map (·.fileName)
  inputText := attempt do (← IO.getStdin).readToEnd

/-- The variables of the environment. -/
def environment : IO (List (String × String)) := do
  let entries ← attempt (IO.FS.readBinFile "/proc/self/environ")
  match entries.bind textOf with
  | .error _ => return []
  | .ok text =>
    return (text.splitOn "\x00").filterMap fun entry =>
      match entry.splitOn "=" with
      | name :: value :: more => some (name, "=".intercalate (value :: more))
      | _ => none

end ReleaseFinder.CommandLine

/-- Runs the program. -/
def main (arguments : List String) : IO UInt32 := do
  let environment ← ReleaseFinder.CommandLine.environment
  let ending ← ReleaseFinder.CommandLine.run ReleaseFinder.CommandLine.systemFiles
    arguments environment
  if let some tree := ending.output then IO.println (ReleaseFinder.Json.indented tree)
  if let some lines := ending.counts then
    for line in lines do IO.eprintln line
  if let some message := ending.message then IO.eprintln ("Fatal error: " ++ message)
  return ending.exit.toUInt32
