/-!
# Values of YAML

What a document says once its scalars have been told apart and its aliases followed. `same` is the
equality of keys: the order of a mapping does not count, and neither do the signs of zeros and the
kinds of not-a-number.
-/

namespace ReleaseFinder.Yaml

/-- A value of a document. -/
inductive Value where
  | null
  | bool (value : Bool)
  | integer (value : Int)
  | float (value : Float)
  | text (value : String)
  | sequence (items : List Value)
  /-- The entries in their order, each key once. -/
  | mapping (entries : List (Value × Value))
  /-- A value with a tag of the document's own. -/
  | tagged (tag : String) (value : Value)
deriving Inhabited

namespace Value

/-- Equality of floats as keys. -/
def sameFloat (left right : Float) : Bool :=
  (left.isNaN && right.isNaN) || left == right

mutual

/-- Equality of keys. -/
def same : Value → Value → Bool
  | .null, .null => true
  | .bool left, .bool right => left == right
  | .integer left, .integer right => left == right
  | .float left, .float right => sameFloat left right
  | .text left, .text right => left == right
  | .sequence left, .sequence right => sameItems left right
  | .mapping left, .mapping right => left.length == right.length && sameEntries left right
  | .tagged tag left, .tagged other right => tag == other && same left right
  | _, _ => false

/-- Equality of items one by one. -/
def sameItems : List Value → List Value → Bool
  | [], [] => true
  | left :: lefts, right :: rights => same left right && sameItems lefts rights
  | _, _ => false

/-- Each entry stands somewhere among the other ones. -/
def sameEntries : List (Value × Value) → List (Value × Value) → Bool
  | [], _ => true
  | (key, value) :: rest, others =>
    others.any (fun other => same key other.1 && same value other.2) && sameEntries rest others

end

/-- No key stands twice among entries. -/
def distinctKeys : List (Value × Value) → Bool
  | [] => true
  | entry :: rest => !rest.any (fun other => same entry.1 other.1) && distinctKeys rest

/-- The value without the tags in front of it. -/
def withoutTags : Value → Value
  | .tagged _ value => value.withoutTags
  | value => value

end Value

end ReleaseFinder.Yaml
