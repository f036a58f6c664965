set_option autoImplicit false

/-!
Texts of YAML, character by character, each with the place where it stands: indentation has a
meaning there, and so have lines.
-/

namespace ServiceRecords.Yaml

/-- A character and its place. Lines, columns and indices are counted from zero. -/
structure Spot where
  char : Char
  line : Nat
  column : Nat
  index : Nat
  deriving DecidableEq, Repr

abbrev Source := List Spot

/-- Whether a line ends with the character. -/
def isBreak (c : Char) : Bool := c = '\n' || c = '\u2028' || c = '\u2029'

/-- Whether the character leaves a gap between words of a line. -/
def isGap (c : Char) : Bool := c = ' ' || c = '\t'

/-- Whether a character can stand in a text; controls cannot. -/
def isAllowed (c : Char) : Bool :=
  c = '\t' || c = '\n' || c = '\r' || (0x20 ≤ c.toNat && c.toNat ≤ 0x7E) || c = '\u0085' ||
    (0xA0 ≤ c.toNat && c.toNat ≤ 0xFFFD) || 0x10000 ≤ c.toNat

/-- The mark of byte order, which says nothing here. -/
def orderMark : Char := '\ufeff'

namespace Source

/-- Line ends, of which there are several, written as one character. The separators of lines and
of paragraphs are kept. -/
def withLines : List Char → List Char
  | '\r' :: '\n' :: rest => '\n' :: withLines rest
  | c :: rest => (if c = '\r' ∨ c = '\u0085' then '\n' else c) :: withLines rest
  | [] => []

def locate (line column index : Nat) : List Char → Source
  | [] => []
  | c :: rest =>
    ⟨c, line, column, index⟩ ::
      if isBreak c then locate (line + 1) 0 (index + 1) rest
      else locate line (column + 1) (index + 1) rest

/-- The characters of a text at their places, if all can stand in one. -/
def ofText? (text : List Char) : Option Source :=
  let text := if text.head? = some orderMark then text.drop 1 else text
  if text.all isAllowed then some (locate 0 0 0 (withLines text)) else none

/-- Whether the source is at its end, at a gap or at the end of a line. -/
def isParted (source : Source) : Bool :=
  source.head?.all fun spot => isGap spot.char || isBreak spot.char

/-- Whether a line that begins here begins with a mark of documents. -/
def startsWith (mark : String) (source : Source) : Bool :=
  source.head?.any (·.column = 0) && (source.take 3).map Spot.char = mark.toList &&
    isParted (source.drop 3)

/-- Whether a document begins or ends here. -/
def atDocument (source : Source) : Bool := startsWith "---" source || startsWith "..." source

def restOfLine (source : Source) : Source := source.dropWhile (!isBreak ·.char)

end Source

end ServiceRecords.Yaml
