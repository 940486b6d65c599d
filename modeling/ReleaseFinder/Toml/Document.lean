import ReleaseFinder.Toml.Scalar

/-!
# Documents of TOML

A document as a tree. A table that is named in a header must not be named again, a table that only
dotted keys have made must not be named in a header, and a value that is written out must not be
added to. `Entry` keeps apart how a table has come about for as long as the document is read.
-/

namespace ReleaseFinder.Toml

/-- What is under a key while a document is read. -/
inductive Entry where
  /-- A value that is written out. -/
  | closed (tree : Tree)
  /-- A table. It is implicit until a header names it; `dotted` tables come from dotted keys. -/
  | table (implicit dotted : Bool) (entries : List (String × Entry))
  /-- A list of tables, the last one first. -/
  | tables (items : List (List (String × Entry)))

/-- The entries of a table. -/
abbrev Entries := List (String × Entry)

namespace Entry

mutual

/-- The tree of an entry. -/
def toTree : Entry → Tree
  | .closed tree => tree
  | .table _ _ entries => .record (members entries)
  | .tables items => .list (records items).reverse

/-- The members of a table. -/
def members : List (String × Entry) → List (String × Tree)
  | [] => []
  | (name, entry) :: rest => (name, toTree entry) :: members rest

/-- The records of a list of tables. -/
def records : List (List (String × Entry)) → List Tree
  | [] => []
  | entries :: rest => .record (members entries) :: records rest

end

end Entry

namespace Entries

/-- Puts an entry under a key, in the place of the one that is there. -/
def replace (entries : Entries) (name : String) (entry : Entry) : Entries :=
  if entries.any (·.1 == name) then
    entries.map fun other => if other.1 == name then (name, entry) else other
  else entries ++ [(name, entry)]

/-- Changes the table at the end of a path. Missing tables are made on the way, as `dotted` says.
The change is told whether its table comes from dotted keys. -/
def changeAt? (dotted : Bool) (change : Bool → Entries → Option Entries) :
    List String → Bool → Entries → Option Entries
  | [], wasDotted, entries => change wasDotted entries
  | name :: path, _, entries => do
    match List.lookup name entries with
    | none =>
      return entries.replace name (.table true dotted (← changeAt? dotted change path dotted []))
    | some (.table implicit wasDotted inner) =>
      if dotted && !implicit then none
      else
        let inner ← changeAt? dotted change path wasDotted inner
        return entries.replace name (.table implicit wasDotted inner)
    | some (.tables (last :: earlier)) =>
      let last ← changeAt? dotted change path false last
      return entries.replace name (.tables (last :: earlier))
    | some _ => none

/-- Puts a value under the last part of a key. -/
def assign? (path : List String) (tree : Tree) (entries : Entries) : Option Entries := do
  let name ← path.getLast?
  entries.changeAt? true
    (fun wasDotted inner =>
      if wasDotted = path.dropLast.isEmpty || inner.any (·.1 == name) then none
      else some (inner ++ [(name, .closed tree)]))
    path.dropLast false

/-- Begins the table that a header names. -/
def beginTable? (path : List String) (entries : Entries) : Option Entries := do
  let name ← path.getLast?
  entries.changeAt? false
    (fun _ inner =>
      match List.lookup name inner with
      | none => some (inner.replace name (.table false false []))
      | some (.table true false held) => some (inner.replace name (.table false false held))
      | some _ => none)
    path.dropLast false

/-- Begins another table of the list that a header names. -/
def beginItem? (path : List String) (entries : Entries) : Option Entries := do
  let name ← path.getLast?
  entries.changeAt? false
    (fun _ inner =>
      match List.lookup name inner with
      | none => some (inner.replace name (.tables [[]]))
      | some (.tables items) => some (inner.replace name (.tables ([] :: items)))
      | some _ => none)
    path.dropLast false

/-- Puts a value under a key of the table that a header has begun. -/
def assignUnder? (header path : List String) (tree : Tree) (entries : Entries) : Option Entries :=
  entries.changeAt? false (fun _ inner => inner.assign? path tree) header false

end Entries

/-- The text after a word. -/
def afterWord? (word : String) (text : List Char) : Option (List Char) :=
  if word.toList.isPrefixOf text then some (text.drop word.length) else none

/-- A value that holds no other values. -/
def scalar? (text : List Char) : Option (Tree × List Char) :=
  match text with
  | [] => none
  | c :: _ =>
    if c = '"' ∨ c = '\'' then (text? text).map fun (found, rest) => (.text found, rest)
    else if c = 't' then (afterWord? "true" text).map (.bool true, ·)
    else if c = 'f' then (afterWord? "false" text).map (.bool false, ·)
    else
      match moment? text with
      | some found => some found
      | none => number? text

mutual

/-- A value in which `depth` more may be nested. -/
def value? : Nat → Nat → List Char → Option (Tree × List Char)
  | 0, _, _ => none
  | fuel + 1, depth, text =>
    match text, depth with
    | '[' :: rest, depth + 1 =>
      (items? fuel depth rest).map fun (items, rest) => (.list items, rest)
    | '\x7b' :: rest, depth + 1 => do
      match skipSpaces rest with
      | '\x7d' :: rest => return (.record [], rest)
      | rest =>
        let (entries, rest) ← pairs? fuel depth [] rest
        return (.record (Entry.members entries), rest)
    | _, _ => scalar? text

/-- The items of a list up to its closing bracket. -/
def items? : Nat → Nat → List Char → Option (List Tree × List Char)
  | 0, _, _ => none
  | fuel + 1, depth, text => do
    match ← skipLines? (text.length + 1) text with
    | ']' :: rest => return ([], rest)
    | rest =>
      let (item, rest) ← value? fuel depth rest
      match ← skipLines? (rest.length + 1) rest with
      | ',' :: rest =>
        let (items, rest) ← items? fuel depth rest
        return (item :: items, rest)
      | ']' :: rest => return ([item], rest)
      | _ => none

/-- The pairs of a table on one line up to its closing brace. -/
def pairs? : Nat → Nat → Entries → List Char → Option (Entries × List Char)
  | 0, _, _, _ => none
  | fuel + 1, depth, entries, text => do
    let (path, rest) ← key? text
    match rest with
    | '=' :: rest =>
      let (tree, rest) ← value? fuel depth (skipSpaces rest)
      let entries ← entries.assign? path tree
      match skipSpaces rest with
      | ',' :: rest => pairs? fuel depth entries rest
      | '\x7d' :: rest => return (entries, rest)
      | _ => none
    | _ => none

end

/-- The lines of a document, under the header that came last. -/
def lines? : Nat → List String → Entries → List Char → Option Entries
  | 0, _, _, _ => none
  | fuel + 1, header, entries, text =>
    match skipSpaces text with
    | [] => some entries
    | '#' :: _ => do lines? fuel header entries (← afterLine? (skipSpaces text))
    | '\n' :: rest => lines? fuel header entries rest
    | '\r' :: rest => do lines? fuel header entries (← afterBreak? ('\r' :: rest))
    | '[' :: '[' :: rest => do
      let (path, rest) ← key? rest
      match rest with
      | ']' :: ']' :: rest =>
        lines? fuel path (← entries.beginItem? path) (← afterLine? rest)
      | _ => none
    | '[' :: rest => do
      let (path, rest) ← key? rest
      match rest with
      | ']' :: rest => lines? fuel path (← entries.beginTable? path) (← afterLine? rest)
      | _ => none
    | line => do
      let (path, rest) ← key? line
      match rest with
      | '=' :: rest =>
        let (tree, rest) ← value? (rest.length + 1) (depthLimit - 1) (skipSpaces rest)
        lines? fuel header (← entries.assignUnder? header path tree) (← afterLine? rest)
      | _ => none

/-- The tree of a document. A mark of the byte order may stand in front of it. -/
def read? (document : String) : Option Tree := do
  let text := match document.toList with
    | '\ufeff' :: rest => rest
    | text => text
  return .record (Entry.members (← lines? (text.length + 1) [] [] text))

end ReleaseFinder.Toml
