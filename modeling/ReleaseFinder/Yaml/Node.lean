import ReleaseFinder.Yaml.Token

/-!
# Nodes of YAML

The tree of a document: scalars, sequences and mappings with their anchors and tags, and aliases.
`Node.ofTokens?` builds the tree of the only document of a text.
-/

namespace ReleaseFinder.Yaml

/-- What may stand in front of a node. -/
structure Marks where
  anchor : Option String := none
  tag : Option TagBytes := none

/-- A node; an alias says which node it stands for. -/
inductive Node (α : Type) where
  | alias (target : α)
  | scalar (marks : Marks) (plain : Bool) (text : String)
  | sequence (marks : Marks) (items : List (Node α))
  | mapping (marks : Marks) (entries : List (Node α × Node α))
deriving Inhabited

/-- What the handles of tags stand for. -/
abbrev TagHandles := List (String × TagBytes)

/-- What handles stand for unless a directive says otherwise. -/
def standardHandles : TagHandles :=
  [("!", .ofText "!"), ("!!", .ofText "tag:yaml.org,2002:")]

/-- The tag that a written tag means. -/
def TagName.resolve? (handles : TagHandles) (name : TagName) : Option TagBytes :=
  if name.handle.isEmpty then some name.suffix
  else (handles.lookup name.handle).map (· ++ name.suffix)

/-- The anchor and the tag in front of a node, in either order. -/
def marks? (handles : TagHandles) : List Token → Option (Marks × List Token)
  | .anchor anchor :: .tag name :: rest
  | .tag name :: .anchor anchor :: rest => do
    return (⟨some anchor, ← name.resolve? handles⟩, rest)
  | .anchor anchor :: rest => some (⟨some anchor, none⟩, rest)
  | .tag name :: rest => do return (⟨none, ← name.resolve? handles⟩, rest)
  | rest => some ({}, rest)

namespace Node

/-- A node that is left out. -/
def absent {α : Type} : Node α := .scalar {} true ""

/-- The tokens in front of which a list's item may be left out. -/
def endsItem : List Token → Bool
  | .blockEntry :: _ | .blockEnd :: _ => true
  | _ => false

/-- The tokens in front of which a part of a mapping may be left out. -/
def endsPart : List Token → Bool
  | .key :: _ | .value :: _ | .blockEnd :: _ => true
  | _ => false

/-- The tokens in front of which a value may be left out between brackets. -/
def endsFlowItem : List Token → Bool
  | .flowEntry :: _ | .flowSequenceEnd :: _ => true
  | _ => false

/-- The tokens in front of which a value may be left out between braces. -/
def endsFlowPart : List Token → Bool
  | .flowEntry :: _ | .flowMappingEnd :: _ => true
  | _ => false

/-- The value token comes next. -/
def beginsValue : List Token → Bool
  | .value :: _ => true
  | _ => false

mutual

/-- A node at the beginning of tokens. Blocks are nodes only where `block` holds, and a list that is
not indented only where `flush` holds. -/
def read? (handles : TagHandles) :
    Nat → Bool → Bool → List Token → Option (Node String × List Token)
  | 0, _, _, _ => none
  | _ + 1, _, _, .alias name :: rest => some (.alias name, rest)
  | fuel + 1, block, flush, tokens => do
    let (marks, rest) ← marks? handles tokens
    match rest, block, flush with
    | .blockEntry :: _, _, true =>
      let (items, rest) ← flushItems? handles fuel rest
      return (.sequence marks items, rest)
    | .scalar plain text :: rest, _, _ => return (.scalar marks plain text, rest)
    | .flowSequenceStart :: rest, _, _ =>
      let (items, rest) ← flowItems? handles fuel true rest
      return (.sequence marks items, rest)
    | .flowMappingStart :: rest, _, _ =>
      let (entries, rest) ← flowEntries? handles fuel true rest
      return (.mapping marks entries, rest)
    | .blockSequenceStart :: rest, true, _ =>
      let (items, rest) ← blockItems? handles fuel rest
      return (.sequence marks items, rest)
    | .blockMappingStart :: rest, true, _ =>
      let (entries, rest) ← blockEntries? handles fuel rest
      return (.mapping marks entries, rest)
    | rest, _, _ =>
      if marks.anchor.isSome || marks.tag.isSome then return (.scalar marks true "", rest) else none

/-- The items of a list up to its end. -/
def blockItems? (handles : TagHandles) :
    Nat → List Token → Option (List (Node String) × List Token)
  | 0, _ => none
  | fuel + 1, .blockEntry :: rest => do
    let (item, rest) ←
      if endsItem rest then some (.absent, rest) else read? handles fuel true false rest
    let (items, rest) ← blockItems? handles fuel rest
    return (item :: items, rest)
  | _ + 1, .blockEnd :: rest => some ([], rest)
  | _ + 1, _ => none

/-- The items of a list that is not indented. -/
def flushItems? (handles : TagHandles) :
    Nat → List Token → Option (List (Node String) × List Token)
  | 0, _ => none
  | fuel + 1, .blockEntry :: rest => do
    let (item, rest) ←
      if endsItem rest || endsPart rest then some (.absent, rest)
      else read? handles fuel true false rest
    let (items, rest) ← flushItems? handles fuel rest
    return (item :: items, rest)
  | _ + 1, rest => some ([], rest)

/-- A part of a mapping after its key or value token. -/
def part? (handles : TagHandles) : Nat → List Token → Option (Node String × List Token)
  | 0, _ => none
  | fuel + 1, rest =>
    if endsPart rest then some (.absent, rest) else read? handles fuel true true rest

/-- The entries of a mapping up to its end. -/
def blockEntries? (handles : TagHandles) :
    Nat → List Token → Option (List (Node String × Node String) × List Token)
  | 0, _ => none
  | fuel + 1, .key :: rest => do
    let (key, rest) ← part? handles fuel rest
    let (value, rest) ←
      if beginsValue rest then part? handles fuel (rest.drop 1) else some (.absent, rest)
    let (entries, rest) ← blockEntries? handles fuel rest
    return ((key, value) :: entries, rest)
  | _ + 1, .blockEnd :: rest => some ([], rest)
  | _ + 1, _ => none

/-- The items between brackets. An item that is a single key and value is a mapping of its own; when
the key is left out, so is the token in its place. -/
def flowItems? (handles : TagHandles) :
    Nat → Bool → List Token → Option (List (Node String) × List Token)
  | 0, _, _ => none
  | _ + 1, _, .flowSequenceEnd :: rest => some ([], rest)
  | fuel + 1, first, tokens => do
    let tokens ←
      if first then some tokens
      else match tokens with
        | .flowEntry :: rest => some rest
        | _ => none
    match tokens with
    | .key :: rest =>
      let (key, rest) ←
        if beginsValue rest || endsFlowItem rest then some (.absent, rest.drop 1)
        else read? handles fuel false false rest
      let (value, rest) ←
        if beginsValue rest then
          if endsFlowItem (rest.drop 1) then some (.absent, rest.drop 1)
          else read? handles fuel false false (rest.drop 1)
        else some (.absent, rest)
      let (items, rest) ← flowItems? handles fuel false rest
      return (.mapping {} [(key, value)] :: items, rest)
    | .flowSequenceEnd :: rest => return ([], rest)
    | tokens =>
      let (item, rest) ← read? handles fuel false false tokens
      let (items, rest) ← flowItems? handles fuel false rest
      return (item :: items, rest)

/-- The entries between braces. An entry without a key token has no value. -/
def flowEntries? (handles : TagHandles) :
    Nat → Bool → List Token → Option (List (Node String × Node String) × List Token)
  | 0, _, _ => none
  | _ + 1, _, .flowMappingEnd :: rest => some ([], rest)
  | fuel + 1, first, tokens => do
    let tokens ←
      if first then some tokens
      else match tokens with
        | .flowEntry :: rest => some rest
        | _ => none
    match tokens with
    | .key :: rest =>
      let (key, rest) ←
        if beginsValue rest || endsFlowPart rest then some (.absent, rest)
        else read? handles fuel false false rest
      let (value, rest) ←
        if beginsValue rest then
          if endsFlowPart (rest.drop 1) then some (.absent, rest.drop 1)
          else read? handles fuel false false (rest.drop 1)
        else some (.absent, rest)
      let (entries, rest) ← flowEntries? handles fuel false rest
      return ((key, value) :: entries, rest)
    | .flowMappingEnd :: rest => return ([], rest)
    | tokens =>
      let (key, rest) ← read? handles fuel false false tokens
      let (entries, rest) ← flowEntries? handles fuel false rest
      return ((key, .absent) :: entries, rest)

end

/-- The directives at the beginning of tokens: what handles stand for, and the tokens after them. A
version is given at most once, and a handle too. -/
def directives? (versioned : Bool) (handles : TagHandles) :
    List Token → Option (TagHandles × List Token)
  | .directive (.version major minor) :: rest =>
    if versioned || major != 1 || (minor != 1 && minor != 2) then none
    else directives? true handles rest
  | .directive (.tagHandle handle start) :: rest =>
    if (handles.lookup handle).isSome then none
    else directives? versioned ((handle, start) :: handles) rest
  | rest => some (handles ++ standardHandles, rest)

/-- The content of a document, which may be left out. -/
def content? (handles : TagHandles) (tokens : List Token) :
    Option (Node String × List Token) :=
  match tokens with
  | .directive _ :: _ | .documentStart :: _ | .documentEnd :: _ | .streamEnd :: _ =>
    some (.absent, tokens)
  | _ => read? handles (3 * tokens.length + 3) true false tokens

/-- Nothing but ends of documents comes next. -/
def isOver : List Token → Bool
  | .documentEnd :: rest => isOver rest
  | .streamEnd :: _ => true
  | _ => false

/-- The tree of the only document. A text without tokens has an empty document. -/
def ofTokens? (tokens : List Token) : Option (Node String) := do
  let (node, rest) ←
    match tokens with
    | .streamEnd :: _ => some (.absent, tokens)
    | .directive _ :: _ | .documentStart :: _ =>
      match ← directives? false [] tokens with
      | (handles, .documentStart :: rest) => content? handles rest
      | _ => none
    | _ => read? standardHandles (3 * tokens.length + 3) true false tokens
  if isOver rest then return node else none

end Node

end ReleaseFinder.Yaml
