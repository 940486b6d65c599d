import ReleaseFinder.Width
import ReleaseFinder.Yaml.Value
import ReleaseFinder.Yaml.Tag
import ReleaseFinder.Decimal.Binary
import ReleaseFinder.Decimal.Numeral
import ReleaseFinder.Json.Reader

/-!
# Meanings of scalars

Which value a scalar stands for. A plain scalar may be null, a truth value or a number; every other
one is a text, unless a standard tag says what it has to be.
-/

namespace ReleaseFinder.Yaml

/-- The text is written as null. -/
def isNull (text : String) : Bool :=
  ["null", "Null", "NULL", "~"].contains text

/-- The truth value that a text is written as. -/
def bool? (text : String) : Option Bool :=
  if ["true", "True", "TRUE"].contains text then some true
  else if ["false", "False", "FALSE"].contains text then some false
  else none

/-- The value of one or more digits to a base. -/
def digits? (base : Nat) (digits : List Char) : Option Nat :=
  if digits.isEmpty then none
  else
    digits.foldl
      (fun value c => do
        let value ← value
        let digit ← Json.hexDigit? c
        if digit < base then return value * base + digit else none)
      (some 0)

/-- Digits after a zero, which make a text of what would be a number. -/
def isZeroPadded (text : List Char) : Bool :=
  match (Decimal.splitSign text).2 with
  | '0' :: c :: rest => (c :: rest).all Char.isDigit
  | _ => false

/-- The value of a number without its sign: decimal, or in one of the bases that a prefix gives. -/
def magnitude? : List Char → Option Nat
  | '0' :: 'x' :: rest => digits? 16 rest
  | '0' :: 'o' :: rest => digits? 8 rest
  | '0' :: 'b' :: rest => digits? 2 rest
  | rest => digits? 10 rest

/-- The whole number that a text is written as. -/
def integer? (text : List Char) : Option Int :=
  if isZeroPadded text then none
  else
    let (negative, rest) := Decimal.splitSign text
    (magnitude? rest).map fun value => if negative then -(value : Int) else value

/-- A whole number that can be held. -/
def isHeld (value : Int) : Bool :=
  Width.fitsSigned 64 value || Width.fits 64 value

/-- A whole number that cannot be held, and is too small to be taken for a float. -/
def isRefused (value : Int) : Bool :=
  !isHeld value && (Width.fitsSigned 128 value || Width.fits 128 value)

/-- The text is an infinity without its sign. -/
def isInfinity (text : List Char) : Bool :=
  [".inf", ".Inf", ".INF"].contains (String.ofList text)

/-- The float that a text is written as. Infinities begin with a point, and no other text stands for
one. -/
def float? (text : List Char) : Option Float :=
  let (negative, rest) := Decimal.splitSign text
  if isInfinity rest then some (if negative then -1.0 / 0.0 else 1.0 / 0.0)
  else if [".nan", ".NaN", ".NAN"].contains (String.ofList text) then some (0.0 / 0.0)
  else do
    let value ← Decimal.readFloat? text
    match Decimal.Binary.ofFloat value with
    | .finite .. => return value
    | _ => none

namespace Value

/-- The value of a plain scalar. -/
def ofPlain? (text : String) : Option Value :=
  let characters := text.toList
  if text.isEmpty || isNull text then some .null
  else
    match bool? text, integer? characters with
    | some value, _ => some (.bool value)
    | none, some value =>
      if isHeld value then some (.integer value)
      else if isRefused value then none
      else some (((float? characters).map Value.float).getD (.text text))
    | none, none =>
      if isZeroPadded characters then some (.text text)
      else some (((float? characters).map Value.float).getD (.text text))

/-- A standard tag. -/
def standardTag (name : String) : TagBytes := .ofText ("tag:yaml.org,2002:" ++ name)

/-- The value of a scalar with a tag that is none of the document's own. -/
def ofStandard? (tag : TagBytes) (text : String) : Option Value :=
  if tag = standardTag "bool" then (bool? text).map .bool
  else if tag = standardTag "int" then
    match integer? text.toList with
    | some value => if isHeld value then some (.integer value) else none
    | none => none
  else if tag = standardTag "float" then (float? text.toList).map .float
  else if tag = standardTag "null" then if isNull text then some .null else none
  else some (.text text)

/-- A tag of the document's own begins with an exclamation mark. -/
def isOwnTag (tag : TagBytes) : Bool :=
  (TagBytes.ofText "!").isPrefixOf tag

/-- The name that a tag of the document's own gives to what stands behind it. A second mark in front
of the name is none of the name, and a mark alone is a name itself. Bytes that are no text name
nothing. -/
def ownName? (tag : TagBytes) : Option String :=
  tag.text?.bind fun text =>
    match text.toList with
    | '!' :: '!' :: c :: rest => some (String.ofList (c :: rest))
    | '!' :: c :: rest => some (String.ofList (c :: rest))
    | ['!'] => some "!"
    | _ => none

/-- The value with the name of its tag, if the tag gives it one. -/
def named (tag : Option TagBytes) (value : Value) : Value :=
  match tag.bind ownName? with
  | some name => .tagged name value
  | none => value

/-- The value of a scalar. -/
def ofScalar? (tag : Option TagBytes) (plain : Bool) (text : String) : Option Value :=
  let untagged := if plain then ofPlain? text else some (.text text)
  match tag with
  | none => untagged
  | some own => if isOwnTag own then untagged.map (named tag) else ofStandard? own text

end Value

end ReleaseFinder.Yaml
