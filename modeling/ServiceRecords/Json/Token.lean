import ServiceRecords.Json.Number
import ServiceRecords.Json.Quoted

set_option autoImplicit false

/-!
The tokens of a JSON text. `Token.scan` takes a text apart into its tokens, skipping the space
between them, and fails on anything that begins no token.
-/

namespace ServiceRecords.Json

inductive Token where
  | openObject
  | closeObject
  | openArray
  | closeArray
  | colon
  | comma
  | null
  | boolean (truth : Bool)
  | number (number : Number)
  /-- A quoted text; none when it names half of a pair of units alone. -/
  | string (text : Option String)
  deriving DecidableEq

namespace Token

/-- Space, tab, line feed and carriage return may stand between tokens. -/
def isSpace (c : Char) : Bool := c = ' ' || c = '\t' || c = '\n' || c = '\r'

/-- The token that the text begins with, and what follows it. -/
def first? : List Char → Option (Token × List Char)
  | '{' :: rest => some (openObject, rest)
  | '}' :: rest => some (closeObject, rest)
  | '[' :: rest => some (openArray, rest)
  | ']' :: rest => some (closeArray, rest)
  | ':' :: rest => some (colon, rest)
  | ',' :: rest => some (comma, rest)
  | 'n' :: 'u' :: 'l' :: 'l' :: rest => some (null, rest)
  | 't' :: 'r' :: 'u' :: 'e' :: rest => some (boolean true, rest)
  | 'f' :: 'a' :: 'l' :: 's' :: 'e' :: rest => some (boolean false, rest)
  | '"' :: rest => (Piece.read rest).map fun (pieces, rest) => (string (Piece.text? pieces), rest)
  | cs => (Number.read? cs).map fun (n, rest) => (number n, rest)

theorem first?_shorter {cs rest : List Char} {token : Token}
    (h : first? cs = some (token, rest)) : rest.length < cs.length := by
  unfold first? at h
  split at h
  case h_10 =>
    obtain ⟨⟨_, _⟩, read_eq, h⟩ := Option.map_eq_some_iff.mp h
    have := Piece.read_shorter read_eq
    grind
  case h_11 =>
    obtain ⟨⟨_, _⟩, read_eq, h⟩ := Option.map_eq_some_iff.mp h
    have := Number.read?_shorter read_eq
    grind
  all_goals
    simp only [Option.some.injEq, Prod.mk.injEq] at h
    simp only [← h.2, List.length_cons]
    omega

/-- The tokens of the text, in order. -/
def scan : List Char → Option (List Token)
  | [] => some []
  | c :: cs =>
    if isSpace c then scan cs
    else
      match _h : first? (c :: cs) with
      | none => none
      | some (token, rest) => (scan rest).map (token :: ·)
termination_by cs => cs.length
decreasing_by
  · simp
  · exact first?_shorter _h

def write : Token → List Char
  | openObject => ['{']
  | closeObject => ['}']
  | openArray => ['[']
  | closeArray => [']']
  | colon => [':']
  | comma => [',']
  | null => "null".toList
  | boolean true => "true".toList
  | boolean false => "false".toList
  | number n => n.write
  | string text => quote text

end Token

end ServiceRecords.Json
