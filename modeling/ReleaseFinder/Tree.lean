import ReleaseFinder.Width

/-!
# Trees

What a decoded document is, whichever syntax it was written in: scalars, lists and records whose
members keep their order. `Fields` reads a record with named fields out of a tree. A record may be
written with names or as the list of its fields in order; a name that is given twice refuses it, and
unknown names are passed over.
-/

namespace ReleaseFinder

/-- A decoded document. -/
inductive Tree where
  | null
  | bool (value : Bool)
  | integer (value : Int)
  | float (value : Float)
  | text (value : String)
  | list (items : List Tree)
  | record (members : List (String × Tree))
  /-- A scalar that has no value, such as a number past every range: whoever looks at it refuses
  it. -/
  | unreadable
deriving Inhabited

/-- Where a tree comes from, as far as reading records depends on it. -/
inductive TreeSource where
  /-- A document whose lists may hold no item that is not asked for. -/
  | exact
  /-- A settings file. -/
  | settings
  /-- Settings put together from a file and the environment. -/
  | overlaid
deriving Repr, DecidableEq

namespace Tree

/-- The text of a text. -/
def text? : Tree → Option String
  | .text value => some value
  | _ => none

/-- The value of a truth value. -/
def bool? : Tree → Option Bool
  | .bool value => some value
  | _ => none

/-- A whole number of so many bits. -/
def natural? (bits : Nat) : Tree → Option Nat
  | .integer value => if Width.fits bits value then some value.toNat else none
  | _ => none

/-- A whole number of so many bits, one of which is its sign. -/
def integer? (bits : Nat) : Tree → Option Int
  | .integer value => if Width.fitsSigned bits value then some value else none
  | _ => none

/-- A number as a float; whole numbers are converted. -/
def number? : Tree → Option Float
  | .float value => some value
  | .integer value => some (Float.ofInt value)
  | _ => none

/-- A list, each item read alike. -/
def list? {α : Type} (item? : Tree → Option α) : Tree → Option (List α)
  | .list items => items.mapM item?
  | _ => none

/-- A list of texts. -/
def texts? (tree : Tree) : Option (List String) :=
  tree.list? text?

/-- The named values of a record. -/
def pairs? {α : Type} (value? : Tree → Option α) : Tree → Option (List (String × α))
  | .record members => members.mapM fun member => (value? member.2).map (member.1, ·)
  | _ => none

/-- A value that may be absent: null stands for no value. -/
def optional? {α : Type} (value? : Tree → Option α) : Tree → Option (Option α)
  | .null => some none
  | tree => (value? tree).map some

/-- The name of one of several alternatives: a text, or a record with the name as its only member
and nothing under it. -/
def variant? (source : TreeSource) : Tree → Option String
  | .text name => some name
  | .record [(name, .null)] => if source = .exact then some name else none
  | .record [(name, .record [])] => if source = .settings then some name else none
  | .record [(name, .list [])] => if source = .settings then some name else none
  | _ => none

/-- The members of a record under a name, in order. -/
def membersNamed (name : String) (tree : Tree) : List Tree :=
  match tree with
  | .record members => (members.filter (·.1 == name)).map (·.2)
  | _ => []

/-- The last member of a record under a name. -/
def member? (name : String) (tree : Tree) : Option Tree :=
  (tree.membersNamed name).getLast?

end Tree

/-- The fields that a tree gives for a record. -/
structure Fields where
  given : List (String × Tree)
  /-- Whether the record was written as a list of its fields. -/
  positional : Bool

namespace Fields

/-- The fields of a record whose fields are called `names`, in that order. A pair in `aliases` is a
second name and the field that it stands for. -/
def ofTree? (source : TreeSource) (names : List String) (aliases : List (String × String)) :
    Tree → Option Fields
  | .record members =>
    let named : List (String × Tree) :=
      members.map fun member => ((aliases.lookup member.1).getD member.1, member.2)
    let known := named.filter fun member => names.contains member.1
    if (known.map Prod.fst).Nodup then some ⟨known, false⟩ else none
  | .list items =>
    if source = .exact ∧ names.length < items.length then none
    else some ⟨names.zip items, true⟩
  | _ => none

/-- A field that must be given. -/
def required {α : Type} (fields : Fields) (name : String) (value? : Tree → Option α) : Option α :=
  (fields.given.lookup name).bind value?

/-- A field that has a value of its own when it is not given. -/
def withDefault {α : Type} (fields : Fields) (name : String) (absent : α)
    (value? : Tree → Option α) : Option α :=
  match fields.given.lookup name with
  | none => some absent
  | some tree => value? tree

/-- A field that may be absent or null. -/
def optional {α : Type} (fields : Fields) (name : String) (value? : Tree → Option α) :
    Option (Option α) :=
  fields.withDefault name none (Tree.optional? value?)

/-- A field that may be absent or null, but whose place in a list must be filled. -/
def optionalByName {α : Type} (fields : Fields) (name : String) (value? : Tree → Option α) :
    Option (Option α) :=
  match fields.given.lookup name with
  | none => if fields.positional then none else some none
  | some tree => tree.optional? value?

end Fields

end ReleaseFinder
