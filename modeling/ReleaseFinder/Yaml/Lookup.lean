import ReleaseFinder.Decimal.Shortest
import ReleaseFinder.Dictionary
import ReleaseFinder.Text.Blank
import ReleaseFinder.Text.LowerCase
import ReleaseFinder.Yaml.Resolution

/-!
# Lenient reading of YAML values

Hand-written documents are read leniently. A number or a truth value stands for its text wherever a
text is asked for, a single scalar stands for a list of one, and a null stands for nothing at all.
-/

namespace ReleaseFinder.Yaml

namespace Value

/-- The text of a scalar, tagged or not. Null has none. -/
def scalar? : Value → Option String
  | .text value => some value
  | .integer value => some (toString value)
  | .float value => some (Decimal.shortest Decimal.documentStyle value)
  | .bool value => some (if value then "true" else "false")
  | .tagged _ value => value.scalar?
  | _ => none

/-- The scalars of a list, or a scalar on its own. -/
def scalars : Value → List String
  | .sequence items => items.filterMap scalar?
  | value => value.scalar?.toList

/-- The entries of a mapping, tagged or not. -/
def entries? (value : Value) : Option (List (Value × Value)) :=
  match value.withoutTags with
  | .mapping entries => some entries
  | _ => none

/-- The value is a text of its own, without a tag. -/
def isText (name : String) : Value → Bool
  | .text value => value == name
  | _ => false

/-- The truth value that a value stands for; a text may spell it out. -/
def truth? : Value → Option Bool
  | .bool value => some value
  | .text value =>
    let word := Text.asciiLower (Text.trim value)
    if word = "true" ∨ word = "yes" then some true
    else if word = "false" ∨ word = "no" then some false
    else none
  | _ => none

/-- The number that a value stands for; a text may spell it out. -/
def number? : Value → Option Float
  | .integer value => some (Float.ofInt value)
  | .float value => some value
  | .text value => Decimal.readFloat? (Text.trimChars value.toList)
  | _ => none

end Value

/-- The entries of a mapping. -/
abbrev Entries := List (Value × Value)

namespace Entries

/-- The value under a name, even if it is null. -/
def held? (entries : Entries) (name : String) : Option Value :=
  (entries.find? fun entry => entry.1.isText name).map (·.2)

/-- The value under a name. A null is no value. -/
def get? (entries : Entries) (name : String) : Option Value :=
  match entries.held? name with
  | some .null => none
  | found => found

/-- The text under a name. -/
def text? (entries : Entries) (name : String) : Option String :=
  (entries.get? name).bind Value.scalar?

/-- The texts under a name. -/
def texts (entries : Entries) (name : String) : List String :=
  ((entries.get? name).map Value.scalars).getD []

/-- The truth value under a name. -/
def truth? (entries : Entries) (name : String) : Option Bool :=
  (entries.get? name).bind Value.truth?

/-- The number under a name. -/
def number? (entries : Entries) (name : String) : Option Float :=
  (entries.get? name).bind Value.number?

/-- The entries as a dictionary. Entries without a text for a name, or without a value of the kind
asked for, are passed over; of two with one name the later stays. -/
def dictionary {α : Type} (value? : Value → Option α) (entries : Entries) : Dictionary α :=
  .ofList (entries.filterMap fun entry => do return (← entry.1.scalar?, ← value? entry.2))

/-- The mapping under a name. -/
def entries? (entries : Entries) (name : String) : Option Entries :=
  match entries.get? name with
  | some (.mapping inner) => some inner
  | _ => none

/-- The texts by name of the mapping under a name. -/
def textMap (entries : Entries) (name : String) : Dictionary String :=
  ((entries.entries? name).map (dictionary Value.scalar?)).getD .empty

/-- The lists of texts by name of the mapping under a name. -/
def listMap (entries : Entries) (name : String) : Dictionary (List String) :=
  ((entries.entries? name).map (dictionary fun value => some value.scalars)).getD .empty

end Entries

end ReleaseFinder.Yaml
