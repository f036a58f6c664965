set_option autoImplicit false

/-!
Patterns of texts, as regular expressions write them. `Pattern.Matches` says which texts a
pattern admits, and `Pattern.text` writes it.
-/

namespace ServiceRecords.Schema

inductive Pattern where
  | empty
  /-- One character from any of the ranges -/
  | oneOf (ranges : List (Char × Char))
  | followedBy (first second : Pattern)
  /-- The part at least a number of times in a row, and at most another number if there is one -/
  | repeated (least : Nat) (most : Option Nat) (part : Pattern)

namespace Pattern

/-- Which texts a pattern admits. -/
inductive Matches : Pattern → List Char → Prop where
  | empty : Matches .empty []
  | oneOf {ranges : List (Char × Char)} {low high c : Char} (member : (low, high) ∈ ranges)
      (low_le : low ≤ c) (le_high : c ≤ high) : Matches (.oneOf ranges) [c]
  | followedBy {first second : Pattern} {before after : List Char}
      (first_matches : Matches first before) (second_matches : Matches second after) :
      Matches (.followedBy first second) (before ++ after)
  | repeated {least : Nat} {most : Option Nat} {part : Pattern} (texts : List (List Char))
      (all_match : ∀ text ∈ texts, Matches part text) (least_le : least ≤ texts.length)
      (le_most : ∀ limit ∈ most, texts.length ≤ limit) :
      Matches (.repeated least most part) texts.flatten

def char (c : Char) : Pattern := oneOf [(c, c)]

def maybe (part : Pattern) : Pattern := repeated 0 (some 1) part

def many (part : Pattern) : Pattern := repeated 0 none part

/-- Patterns one after the other. -/
def sequence : List Pattern → Pattern
  | [] => empty
  | [part] => part
  | part :: rest => followedBy part (sequence rest)

def rangeText : Char × Char → String
  | (low, high) =>
    if low = high then .singleton low else .ofList [low, '-', high]

def countText (least : Nat) (most : Option Nat) : String :=
  match least, most with
  | 0, none => "*"
  | 1, none => "+"
  | 0, some 1 => "?"
  | least, none => "\x7b" ++ least.repr ++ ",\x7d"
  | least, some most => "\x7b" ++ least.repr ++ "," ++ most.repr ++ "\x7d"

def isSingle : Pattern → Bool
  | oneOf _ => true
  | _ => false

/-- The pattern as a regular expression. A single dot is written with a backslash. -/
def text : Pattern → String
  | empty => ""
  | oneOf [('.', '.')] => "\\."
  | oneOf ranges => "[" ++ String.join (ranges.map rangeText) ++ "]"
  | followedBy first second => first.text ++ second.text
  | repeated least most part =>
    (if part.isSingle then part.text else "(" ++ part.text ++ ")") ++ countText least most

/-- The expression that only whole texts match. -/
def wholeText (pattern : Pattern) : String := "^" ++ pattern.text ++ "$"

end Pattern

/-! ### Zones -/

def letterOrDigit : Pattern := .oneOf [('a', 'z'), ('A', 'Z'), ('0', '9')]

def labelCharacter : Pattern := .oneOf [('a', 'z'), ('A', 'Z'), ('0', '9'), ('-', '-')]

/-- A letter or digit, which may be followed by up to sixty-two characters that end with one. -/
def label : Pattern :=
  .followedBy letterOrDigit
    (.maybe (.followedBy (.repeated 0 (some 61) labelCharacter) letterOrDigit))

/-- Labels with dots between them and perhaps a dot at the end. -/
def zone : Pattern :=
  .sequence [.many (.followedBy label (.char '.')), label, .maybe (.char '.')]

end ServiceRecords.Schema
