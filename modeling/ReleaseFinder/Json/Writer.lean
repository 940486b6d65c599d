import ReleaseFinder.Tree
import ReleaseFinder.Decimal.Shortest

/-!
# Writing JSON

A tree as JSON text, on one line or indented by two blanks a level. Members are written in their
order.
-/

namespace ReleaseFinder.Json

/-- A hexadecimal digit in lower case. -/
def hexChar (n : Nat) : Char :=
  Nat.digitChar (n % 16)

/-- A character inside quotes. -/
def escapeChar (c : Char) : List Char :=
  match c with
  | '"' => ['\\', '"']
  | '\\' => ['\\', '\\']
  | '\x08' => ['\\', 'b']
  | '\x0c' => ['\\', 'f']
  | '\n' => ['\\', 'n']
  | '\r' => ['\\', 'r']
  | '\t' => ['\\', 't']
  | _ =>
    if c.toNat < 0x20 then ['\\', 'u', '0', '0', hexChar (c.toNat / 16), hexChar c.toNat] else [c]

/-- A text in quotes. -/
def quote (text : String) : String :=
  String.ofList ('"' :: text.toList.flatMap escapeChar ++ ['"'])

/-- A float; one that is no number is null. -/
def writeFloat (x : Float) : String :=
  match Decimal.Binary.ofFloat x with
  | .finite .. => Decimal.shortest Decimal.documentStyle x
  | _ => "null"

/-- How the parts of a list or a record are set apart: at a depth, what stands before each item,
what stands before the closing bracket, and what stands after the colon. -/
structure Layout where
  beforeItem : Nat → String
  beforeClose : Nat → String
  afterColon : String

/-- Everything on one line. -/
def compactLayout : Layout := ⟨fun _ => "", fun _ => "", ""⟩

/-- Each item on a line of its own. -/
def indentedLayout : Layout :=
  let line (depth : Nat) := "\n" ++ String.ofList (List.replicate (2 * depth) ' ')
  ⟨fun depth => line (depth + 1), line, " "⟩

/-- The items between brackets, separated by commas. -/
def bracketed (layout : Layout) (depth : Nat) (opening closing : String) (items : List String) :
    String :=
  if items.isEmpty then opening ++ closing
  else
    opening ++ ",".intercalate (items.map (layout.beforeItem depth ++ ·)) ++
      layout.beforeClose depth ++ closing

mutual

/-- A tree at a depth. -/
def writeAt (layout : Layout) (depth : Nat) : Tree → String
  | .null => "null"
  | .bool value => if value then "true" else "false"
  | .integer value => toString value
  | .float value => writeFloat value
  | .text value => quote value
  | .list items => bracketed layout depth "[" "]" (writeItems layout (depth + 1) items)
  | .record members =>
    bracketed layout depth "\x7b" "\x7d" (writeMembers layout (depth + 1) members)
  | .unreadable => "null"

/-- The items of a list. -/
def writeItems (layout : Layout) (depth : Nat) : List Tree → List String
  | [] => []
  | item :: rest => writeAt layout depth item :: writeItems layout depth rest

/-- The members of a record. -/
def writeMembers (layout : Layout) (depth : Nat) : List (String × Tree) → List String
  | [] => []
  | (name, value) :: rest =>
    (quote name ++ ":" ++ layout.afterColon ++ writeAt layout depth value) ::
      writeMembers layout depth rest

end

/-- A tree on one line. -/
def compact (tree : Tree) : String :=
  writeAt compactLayout 0 tree

/-- A tree over several lines. -/
def indented (tree : Tree) : String :=
  writeAt indentedLayout 0 tree

end ReleaseFinder.Json
