import ServiceRecords.Text.Decimal
import ServiceRecords.Yaml.Node

set_option autoImplicit false

/-!
Values of YAML. A scalar without quotes may be a number, a truth value or nothing at all; aliases
stand for the nodes that they name. A member cannot be given twice.
-/

namespace ServiceRecords.Yaml

inductive Value where
  | null
  | bool (b : Bool)
  | integer (n : Int)
  | float (x : Float)
  | string (s : String)
  | list (items : List Value)
  | mapping (members : List (Value × Value))
  /-- A value with a tag of its own -/
  | tagged (tag : String) (value : Value)
  deriving BEq

namespace Scalar

def isNull (text : String) : Bool := ["null", "Null", "NULL", "~"].contains text

def bool? (text : String) : Option Bool :=
  if ["true", "True", "TRUE"].contains text then some true
  else if ["false", "False", "FALSE"].contains text then some false
  else none

/-- Whether a text has digits after a leading zero, which is no number. -/
def isPadded (digits : List Char) : Bool :=
  digits.length > 1 && digits.head? = some '0' && digits.all Char.isDigit

def natural? (base : Nat) (digits : List Char) : Option Nat :=
  if digits.isEmpty then none else Text.number? base digits

/-- The number that digits stand for, in the base that their first characters name. -/
def magnitude? (digits : List Char) : Option Nat :=
  match digits with
  | '0' :: 'x' :: digits => natural? 16 digits
  | '0' :: 'o' :: digits => natural? 8 digits
  | '0' :: 'b' :: digits => natural? 2 digits
  | digits => if isPadded digits then none else natural? 10 digits

/-- An integer with at most one sign. -/
def integer? (text : List Char) : Option Int :=
  match text with
  | '-' :: digits => (magnitude? digits).map fun n => -(n : Int)
  | '+' :: digits => (magnitude? digits).map Int.ofNat
  | digits => (magnitude? digits).map Int.ofNat

/-- The power of ten after the letter, if there is one. -/
def exponent? (text : List Char) : Option Int :=
  match text with
  | [] => some 0
  | e :: '-' :: digits => if e.toLower = 'e' then (natural? 10 digits).map fun n => -n else none
  | e :: '+' :: digits => if e.toLower = 'e' then (natural? 10 digits).map (·) else none
  | e :: digits => if e.toLower = 'e' then (natural? 10 digits).map (·) else none

/-- The number with digits before and after a point, of which there is one. -/
def decimal? (text : List Char) : Option Float := do
  let isMark (c : Char) : Bool := c.toLower = 'e'
  let digits := text.takeWhile (!isMark ·)
  let whole := digits.takeWhile (· != '.')
  let fraction := (digits.dropWhile (· != '.')).drop 1
  let mantissa ← natural? 10 (whole ++ fraction)
  let power ← exponent? (text.dropWhile (!isMark ·))
  return Text.Decimal.nearest mantissa (power - fraction.length)

/-- A number with a point or a power. Other than written, none is infinite. -/
def float? (text : List Char) : Option Float :=
  let unsigned := match text with
    | '+' :: rest => rest
    | rest => rest
  if unsigned.head? = some '+' || (text.head? = some '+' && unsigned.head? = some '-') then none
  else if [".inf", ".Inf", ".INF"].contains (String.ofList unsigned) then some (1 / 0)
  else if ["-.inf", "-.Inf", "-.INF"].contains (String.ofList text) then some (-1 / 0)
  else if [".nan", ".NaN", ".NAN"].contains (String.ofList text) then some (0 / 0)
  else
    let number := match unsigned with
      | '-' :: digits => (decimal? digits).map Neg.neg
      | digits => decimal? digits
    number.filter Float.isFinite

/-- Whether an integer fits into 64 bits, with a sign only if it is negative. -/
def fits (n : Int) : Bool := -Int.pow 2 63 ≤ n && n < Int.pow 2 64

/-- Whether an integer would fit into 128 bits. -/
def fitsTwice (n : Int) : Bool := -Int.pow 2 127 ≤ n && n < Int.pow 2 128

/-- The integer of a text: none if it is no integer or not even 128 bits hold it. -/
def bounded? (text : String) : Option Int := (integer? text.toList).filter fitsTwice

/-- The value of an integer; 64 bits have to hold it. -/
def ofInteger (n : Int) : Option Value := if fits n then some (.integer n) else none

/-- Whether a text looks like a padded number with or without a sign. -/
def isDigits (text : List Char) : Bool :=
  isPadded (match text with
    | '-' :: rest => rest
    | '+' :: rest => rest
    | rest => rest)

/-- The value of a scalar without quotes and tags. -/
def plain (text : String) : Option Value :=
  if text = "" ∨ isNull text then some .null
  else
    match bool? text, bounded? text with
    | some b, _ => some (.bool b)
    | none, some n => ofInteger n
    | none, none =>
      if isDigits text.toList then some (.string text)
      else
        match float? text.toList with
        | some x => some (.float x)
        | none => some (.string text)

/-- The tags of the values that every text can hold begin with this. -/
def core : String := "tag:yaml.org,2002:"

/-- The value of a scalar. -/
def value? (tag : Option String) (text : String) (isPlain : Bool) : Option Value :=
  let untagged := if isPlain then plain text else some (.string text)
  match tag with
  | none => untagged
  | some tag =>
    if tag = core ++ "bool" then (bool? text).map .bool
    else if tag = core ++ "int" then (bounded? text).bind ofInteger
    else if tag = core ++ "float" then (float? text.toList).map .float
    else if tag = core ++ "null" then if isNull text then some .null else none
    else if tag = "!" then untagged
    else if tag.startsWith "!" then untagged.map (.tagged (.ofList (tag.toList.drop 1)))
    else some (.string text)

end Scalar

/-- A value, how many collections in it are inside of each other, how many places of the text it
takes, and how often it follows an alias. -/
structure Measured where
  value : Value
  depth : Nat := 0
  places : Nat := 1
  jumps : Nat := 0

/-- The values of the anchors; an anchor that is still open has none. -/
abbrev Anchors := List (String × Option Measured)

/-- Builds values while anchors become known. -/
abbrev Builder := StateT Anchors Option

namespace Node

/-- Puts a tag of its own on a collection. -/
def withTag (tag : Option String) (value : Value) : Value :=
  match tag with
  | some tag =>
    if tag.startsWith "!" && tag != "!" then .tagged (.ofList (tag.toList.drop 1)) value
    else value
  | none => value

/-- Opens an anchor, builds its value, and keeps it. -/
def anchored (properties : Properties) (build : Builder Measured) : Builder Measured := do
  match properties.anchor with
  | none => build
  | some name =>
    modify ((name, none) :: ·)
    let value ← build
    modify ((name, some value) :: ·)
    return value

def collection (properties : Properties) (value : Value) (parts : List Measured) : Measured where
  value := withTag properties.tag value
  depth := (parts.map Measured.depth).foldl max 0 + 1
  places := (parts.map Measured.places).foldl Nat.add 2
  jumps := (parts.map Measured.jumps).foldl Nat.add 0

/-- Whether no member is given twice. -/
def areDistinct : List Value → Bool
  | [] => true
  | key :: rest => !rest.contains key && areDistinct rest

mutual

def build : Node → Builder Measured
  | .scalar properties text isPlain =>
    anchored properties do
      match Scalar.value? properties.tag text isPlain with
      | some value => return { value }
      | none => fun _ => none
  | .sequence properties items =>
    anchored properties do
      let items ← buildItems items
      return collection properties (.list (items.map Measured.value)) items
  | .mapping properties members =>
    anchored properties do
      let members ← buildMembers members
      if areDistinct (members.map (·.1.value)) then
        return collection properties
          (.mapping (members.map fun (key, value) => (key.value, value.value)))
          (members.flatMap fun (key, value) => [key, value])
      else fun _ => none
  | .alias name => do
    match (← get).lookup name with
    | some (some known) => return { known with places := 1, jumps := known.jumps + 1 }
    | _ => fun _ => none

def buildItems : List Node → Builder (List Measured)
  | [] => return []
  | item :: rest => return (← build item) :: (← buildItems rest)

def buildMembers : List (Node × Node) → Builder (List (Measured × Measured))
  | [] => return []
  | (key, value) :: rest => return (← build key, ← build value) :: (← buildMembers rest)

end

/-- The value of a document. It is not nested too deep, and does not follow aliases out of all
proportion. -/
def value? (node : Node) : Option Value := do
  let (measured, _) ← node.build.run []
  if measured.depth ≤ 128 ∧ measured.jumps ≤ 100 * measured.places then return measured.value
  else none

end Node

namespace Value

/-- A value without tags of its own. -/
def untagged : Value → Value
  | .tagged _ value => untagged value
  | value => value

def string? (value : Value) : Option String :=
  match value.untagged with
  | .string s => some s
  | _ => none

def bool? (value : Value) : Option Bool :=
  match value.untagged with
  | .bool b => some b
  | _ => none

/-- Reads a list; null is an empty one. -/
def list? {α : Type} (read : Value → Option α) (value : Value) : Option (List α) :=
  match value.untagged with
  | .list items => items.mapM read
  | .null => some []
  | _ => none

/-- The members of a mapping whose keys are texts; null is an empty one. -/
def fields? (value : Value) : Option (List (String × Value)) :=
  match value.untagged with
  | .mapping members => members.mapM fun (key, value) => (key.string?).map (·, value)
  | .null => some []
  | _ => none

/-- Reads a member, which may be missing or null. -/
def optional {α : Type} (read : Value → Option α) (fields : List (String × Value))
    (name : String) : Option (Option α) :=
  match fields.lookup name with
  | none | some .null => some none
  | some value => (read value).map some

/-- Reads a member that has to be there. -/
def required {α : Type} (read : Value → Option α) (fields : List (String × Value))
    (name : String) : Option α :=
  (fields.lookup name).bind read

end Value

/-- The values of the documents of a text. -/
def values? (text : String) : Option (List Value) := (Node.ofText? text).bind (·.mapM Node.value?)

end ServiceRecords.Yaml
