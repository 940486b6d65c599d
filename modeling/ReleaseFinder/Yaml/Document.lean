import ReleaseFinder.Yaml.Node
import ReleaseFinder.Yaml.Resolution

/-!
# Documents of YAML

The value of a document. Aliases are replaced by the nodes that they stand for; how deep a value may
be nested and how often aliases may be followed is limited, so that every document has a value or is
refused.

An anchor's number is the number of anchor names in use before it. A name that is anchored again
gets a new number, and a number that is given twice stands for the later node.
-/

namespace ReleaseFinder.Yaml

/-- What is known about anchors at a place of a document. -/
structure Anchors where
  /-- The number of each name. -/
  numbers : List (String × Nat) := []
  /-- Where the node of each number begins, the latest first. -/
  starts : List (Nat × Nat) := []
  /-- The anchored nodes by where they begin. -/
  nodes : List (Nat × Node Nat) := []
  /-- The number of beginnings and ends of nodes so far. -/
  place : Nat := 0

namespace Anchors

/-- A node with these marks begins. -/
def enter (anchors : Anchors) (marks : Marks) : Anchors :=
  let anchors := match marks.anchor with
    | none => anchors
    | some name =>
      let number := anchors.numbers.length
      { anchors with
        numbers := (name, number) :: anchors.numbers.filter (·.1 != name)
        starts := (number, anchors.place) :: anchors.starts }
  { anchors with place := anchors.place + 1 }

/-- A node that began at a place is complete. -/
def keep (anchors : Anchors) (marks : Marks) (start : Nat) (node : Node Nat) : Anchors :=
  if marks.anchor.isSome then { anchors with nodes := (start, node) :: anchors.nodes } else anchors

/-- The node with a number. -/
def node? (anchors : Anchors) (number : Nat) : Option (Node Nat) := do
  anchors.nodes.lookup (← anchors.starts.lookup number)

end Anchors

namespace Node

mutual

/-- The node with numbers in place of names. An alias to a name that is not in use is refused. -/
def numbered? (anchors : Anchors) : Node String → Option (Node Nat × Anchors)
  | .alias name => do
    return (.alias (← anchors.numbers.lookup name), { anchors with place := anchors.place + 1 })
  | .scalar marks plain text =>
    let node := .scalar marks plain text
    some (node, (anchors.enter marks).keep marks anchors.place node)
  | .sequence marks items => do
    let (items, inner) ← numberedItems? (anchors.enter marks) items
    let node := .sequence marks items
    return (node, { inner with place := inner.place + 1 }.keep marks anchors.place node)
  | .mapping marks entries => do
    let (entries, inner) ← numberedEntries? (anchors.enter marks) entries
    let node := .mapping marks entries
    return (node, { inner with place := inner.place + 1 }.keep marks anchors.place node)

/-- Items with numbers in place of names. -/
def numberedItems? (anchors : Anchors) : List (Node String) → Option (List (Node Nat) × Anchors)
  | [] => some ([], anchors)
  | item :: rest => do
    let (item, anchors) ← numbered? anchors item
    let (rest, anchors) ← numberedItems? anchors rest
    return (item :: rest, anchors)

/-- Entries with numbers in place of names. -/
def numberedEntries? (anchors : Anchors) :
    List (Node String × Node String) → Option (List (Node Nat × Node Nat) × Anchors)
  | [] => some ([], anchors)
  | (key, value) :: rest => do
    let (key, anchors) ← numbered? anchors key
    let (value, anchors) ← numbered? anchors value
    let (rest, anchors) ← numberedEntries? anchors rest
    return ((key, value) :: rest, anchors)

end

end Node

/-- How deep sequences and mappings may be nested. -/
def deepestNesting : Nat := 128

/-- How often aliases may be followed for every beginning and end of a node. -/
def followsPerPlace : Nat := 100

/-- A computation that follows aliases a limited number of times. -/
abbrev Following (α : Type) := StateT Nat Option α

namespace Value

/-- Follows an alias. -/
def follow (anchors : Anchors) (number : Nat) : Following (Node Nat) := do
  match ← get with
  | 0 => failure
  | left + 1 =>
    set left
    anchors.node? number

/-- The value of a node in which `depth` more collections may be nested. -/
def ofNode (anchors : Anchors) : Nat → Nat → Node Nat → Following Value
  | 0, _, _ => failure
  | fuel + 1, depth, .alias number => do
    ofNode anchors fuel depth (← follow anchors number)
  | _ + 1, _, .scalar marks plain content => (ofScalar? marks.tag plain content : Option Value)
  | fuel + 1, depth, .sequence marks items =>
    match depth with
    | 0 => failure
    | depth + 1 => do
      return named marks.tag (.sequence (← items.mapM (ofNode anchors fuel depth)))
  | fuel + 1, depth, .mapping marks entries =>
    match depth with
    | 0 => failure
    | depth + 1 => do
      let entries ← entries.mapM fun entry => do
        let key ← ofNode anchors fuel depth entry.1
        let value ← ofNode anchors fuel depth entry.2
        return (key, value)
      if distinctKeys entries then return named marks.tag (.mapping entries) else failure

/-- The value of a document's tree. -/
def ofDocument? (document : Node String) : Option Value := do
  let (node, anchors) ← document.numbered? {}
  let (value, _) ←
    (ofNode anchors (2 * deepestNesting + 2) deepestNesting node).run
      (followsPerPlace * anchors.place)
  return value

/-- The value of a text's only document. -/
def read? (document : String) : Option Value := do
  ofDocument? (← Node.ofTokens? (← tokens? document.toList))

end Value

end ReleaseFinder.Yaml
