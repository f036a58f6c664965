import ServiceRecords.Json.Token

set_option autoImplicit false

/-!
JSON values. `Value.ofText?` reads exactly one value with any nesting, `Value.text` writes one
without space. Objects keep their members in order, and a name may occur more than once.
-/

namespace ServiceRecords.Json

inductive Value where
  | null
  | boolean (truth : Bool)
  | number (number : Number)
  | string (text : Option String)
  | array (items : List Value)
  | object (members : List (Option String × Value))

namespace Value

def ofString (text : String) : Value := .string (some text)

def ofNat (n : Nat) : Value := .number (.ofNat n)

/-- An object whose names are given as texts. -/
def ofMembers (members : List (String × Value)) : Value :=
  .object (members.map fun (name, value) => (some name, value))

/-- A container that is not closed yet, with what it holds so far, last first. -/
inductive Partial where
  | array (items : List Value)
  | object (members : List (Option String × Value))
  /-- An object that waits for the value of a member whose name has been read. -/
  | member (members : List (Option String × Value)) (name : Option String)

/-- What the tokens read so far allow next. -/
inductive Expected where
  | value
  /-- The first item of an array, or its end. -/
  | firstItem
  | name
  /-- The first name of an object, or its end. -/
  | firstName
  | colon (name : Option String)
  /-- A value has ended: a comma, the end of its container, or the end of the text. -/
  | follow (value : Value)

/-- The containers that are open, innermost first, and what may come next. -/
structure Reading where
  opened : List Partial
  expected : Expected

namespace Reading

def start : Reading := ⟨[], .value⟩

/-- The effect of a token where a value may begin. -/
def begin? (opened : List Partial) : Token → Option Reading
  | .openObject => some ⟨.object [] :: opened, .firstName⟩
  | .openArray => some ⟨.array [] :: opened, .firstItem⟩
  | .null => some ⟨opened, .follow .null⟩
  | .boolean truth => some ⟨opened, .follow (.boolean truth)⟩
  | .number n => some ⟨opened, .follow (.number n)⟩
  | .string text => some ⟨opened, .follow (.string text)⟩
  | _ => none

def step? : Reading → Token → Option Reading
  | ⟨opened, .value⟩, token => begin? opened token
  | ⟨.array [] :: opened, .firstItem⟩, .closeArray => some ⟨opened, .follow (.array [])⟩
  | ⟨opened, .firstItem⟩, token => begin? opened token
  | ⟨opened, .name⟩, .string name => some ⟨opened, .colon name⟩
  | ⟨opened, .firstName⟩, .string name => some ⟨opened, .colon name⟩
  | ⟨.object [] :: opened, .firstName⟩, .closeObject => some ⟨opened, .follow (.object [])⟩
  | ⟨.object members :: opened, .colon name⟩, .colon =>
    some ⟨.member members name :: opened, .value⟩
  | ⟨.array items :: opened, .follow value⟩, .comma =>
    some ⟨.array (value :: items) :: opened, .value⟩
  | ⟨.array items :: opened, .follow value⟩, .closeArray =>
    some ⟨opened, .follow (.array (value :: items).reverse)⟩
  | ⟨.member members name :: opened, .follow value⟩, .comma =>
    some ⟨.object ((name, value) :: members) :: opened, .name⟩
  | ⟨.member members name :: opened, .follow value⟩, .closeObject =>
    some ⟨opened, .follow (.object ((name, value) :: members).reverse)⟩
  | _, _ => none

def run? (reading : Reading) (tokens : List Token) : Option Reading :=
  tokens.foldlM step? reading

def finish? : Reading → Option Value
  | ⟨[], .follow value⟩ => some value
  | _ => none

end Reading

def ofTokens? (tokens : List Token) : Option Value :=
  (Reading.start.run? tokens).bind Reading.finish?

def ofText? (text : String) : Option Value :=
  (Token.scan text.toList).bind ofTokens?

mutual

def tokens : Value → List Token
  | .null => [.null]
  | .boolean truth => [.boolean truth]
  | .number n => [.number n]
  | .string text => [.string text]
  | .array items => .openArray :: itemTokens items ++ [.closeArray]
  | .object members => .openObject :: memberTokens members ++ [.closeObject]

def itemTokens : List Value → List Token
  | [] => []
  | [item] => item.tokens
  | item :: next :: rest => item.tokens ++ .comma :: itemTokens (next :: rest)

def memberTokens : List (Option String × Value) → List Token
  | [] => []
  | [(name, value)] => .string name :: .colon :: value.tokens
  | (name, value) :: next :: rest =>
    .string name :: .colon :: value.tokens ++ .comma :: memberTokens (next :: rest)

end

def text (value : Value) : String :=
  .ofList (value.tokens.flatMap Token.write)

/-- Whether a value is nested at most `depth` deep, and holds no half characters and no numbers
that are not finite. -/
def isBounded (depth : Nat) : Value → Bool
  | .null | .boolean _ => true
  | .number n => n.toFloat.isFinite
  | .string text => text.isSome
  | .array items =>
    match depth with
    | 0 => false
    | depth + 1 => items.all (isBounded depth)
  | .object members =>
    match depth with
    | 0 => false
    | depth + 1 => members.all fun (name, value) => name.isSome && isBounded depth value

end Value

end ServiceRecords.Json
