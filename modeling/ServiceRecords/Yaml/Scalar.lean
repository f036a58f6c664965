import ServiceRecords.Text.Digits
import ServiceRecords.Yaml.Source

set_option autoImplicit false

/-!
Scalars of YAML: words without quotes, texts between quotes, and blocks of lines. All are read
from a source that is behind their first mark, and give their text and the source behind them.
-/

namespace ServiceRecords.Yaml

/-- What stands between two words of a scalar. -/
inductive Gap where
  | blanks (text : List Char)
  /-- Line ends; the first is missing if it was escaped. -/
  | lines (first : Option Char) (more : List Char)
  deriving DecidableEq

namespace Gap

def none : Gap := .blanks []

/-- Blanks stay, one line end is a blank, and of several the first is left out. -/
def text : Gap → List Char
  | blanks text => text
  | lines (some '\n') [] => [' ']
  | lines (some '\n') more => more
  | lines first more => first.toList ++ more

/-- Blanks at the end and at the start of a line are left out. -/
def add (gap : Gap) (c : Char) : Gap :=
  match gap, isBreak c with
  | blanks _, true => lines (some c) []
  | lines first more, true => lines first (more ++ [c])
  | blanks text, false => blanks (text ++ [c])
  | lines first more, false => lines first more

def hasLines : Gap → Bool
  | blanks _ => false
  | lines _ _ => true

end Gap

/-- A scalar's text, the source behind it, and whether the scalar or the blanks after it reach
into another line. -/
structure Reading where
  text : List Char
  rest : Source
  hasLines : Bool := false

/-- Characters that end a word inside of brackets. -/
def flowMarks : List Char := [',', '[', ']', '\x7b', '\x7d']

namespace Plain

/-- Whether a scalar without quotes ends before a character that is not blank. `isFirst` is set
where a gap is before it. -/
def ends (isFlow : Bool) (indent : Nat) (isFirst : Bool) (spot : Spot) (rest : Source) : Bool :=
  (isFirst && (spot.char = '#' || (!isFlow && spot.column < indent) ||
    Source.atDocument (spot :: rest))) ||
  (spot.char = ':' && Source.isParted rest) || (isFlow && flowMarks.contains spot.char)

/-- Whether a colon stands inside of brackets before something that cannot follow it. -/
def isStray (isFlow : Bool) (spot : Spot) (rest : Source) : Bool :=
  isFlow && spot.char = ':' &&
    rest.head?.any fun next => next.char = '?' || flowMarks.contains next.char

/-- Reads a scalar without quotes, whose lines after the first are indented. The text that was
read so far is in reverse order. -/
def read (isFlow : Bool) (indent : Nat) (text : List Char) (gap : Gap) : Source → Option Reading
  | [] => some ⟨text.reverse, [], gap.hasLines⟩
  | spot :: rest =>
    if isGap spot.char || isBreak spot.char then
      if spot.char = '\t' && gap.hasLines && spot.column < indent then none
      else read isFlow indent text (gap.add spot.char) rest
    else
      let isFirst := gap != .none
      if isFirst && ends isFlow indent true spot rest then
        some ⟨text.reverse, spot :: rest, gap.hasLines⟩
      else if isStray isFlow spot rest then none
      else if ends isFlow indent false spot rest then
        some ⟨text.reverse, spot :: rest, gap.hasLines⟩
      else read isFlow indent (spot.char :: gap.text.reverseAux text) .none rest

end Plain

namespace Quoted

/-- The character that a letter after a backslash stands for. -/
def escaped? : Char → Option Char
  | '0' => some '\x00'
  | 'a' => some '\x07'
  | 'b' => some '\x08'
  | 't' => some '\t'
  | '\t' => some '\t'
  | 'n' => some '\n'
  | 'v' => some '\x0b'
  | 'f' => some '\x0c'
  | 'r' => some '\r'
  | 'e' => some '\x1b'
  | ' ' => some ' '
  | '"' => some '"'
  | '/' => some '/'
  | '\\' => some '\\'
  | 'N' => some '\u0085'
  | '_' => some '\u00a0'
  | 'L' => some '\u2028'
  | 'P' => some '\u2029'
  | _ => none

/-- The number of hexadecimal digits after a letter. -/
def digitCount? : Char → Option Nat
  | 'x' => some 2
  | 'u' => some 4
  | 'U' => some 8
  | _ => none

/-- The character that digits name. -/
def character? (count : Nat) (digits : List Char) : Option Char :=
  match Text.number? 16 digits with
  | some code =>
    if digits.length = count ∧ code.isValidChar then some (.ofNat code) else none
  | none => none

/-- What an escape stands for, and how many characters follow the backslash. -/
def escape? (letter : Char) (rest : Source) : Option (Char × Nat) :=
  match digitCount? letter with
  | some count => (character? count ((rest.take count).map Spot.char)).map (·, count + 1)
  | none => (escaped? letter).map (·, 1)

/-- Reads a text up to the closing quote. Only between double quotes are there escapes, and
between others the quote is written twice. The text that was read so far is in reverse order. -/
def read (quote : Char) (text : List Char) (gap : Gap) (source : Source) : Option Reading :=
  match source with
  | [] => none
  | spot :: rest =>
    if isGap spot.char || isBreak spot.char then read quote text (gap.add spot.char) rest
    else if Source.atDocument (spot :: rest) then none
    else
      let before := gap.text.reverseAux text
      if spot.char = quote then
        match rest with
        | next :: rest =>
          if quote = '\'' ∧ next.char = quote then read quote (quote :: before) .none rest
          else some ⟨before.reverse, next :: rest, false⟩
        | [] => some ⟨before.reverse, [], false⟩
      else if quote = '"' ∧ spot.char = '\\' then
        match rest with
        | [] => none
        | letter :: rest =>
          if isBreak letter.char then read quote before (.lines none []) rest
          else
            match escape? letter.char rest with
            | some (c, count) => read quote (c :: before) .none (rest.drop (count - 1))
            | none => none
      else read quote (spot.char :: before) .none rest
termination_by source.length

end Quoted

namespace Block

/-- What becomes of the line ends behind a block. -/
inductive Ending where
  /-- There is none. -/
  | strip
  /-- There is one if the block has lines. -/
  | clip
  | keep
  deriving DecidableEq, Repr

def ending? (c : Char) : Option Ending :=
  if c = '+' then some .keep else if c = '-' then some .strip else none

/-- The digit that says how far the lines of a block are indented; it is not zero. -/
def step? (source : Source) : Option (Option Nat × Source) :=
  match source with
  | spot :: rest =>
    if spot.char = '0' then none
    else if spot.char.isDigit then some (Text.digitValue? spot.char, rest)
    else some (none, source)
  | [] => some (none, [])

def endingOf (source : Source) : Option Ending × Source :=
  match source with
  | spot :: rest =>
    match ending? spot.char with
    | some ending => (some ending, rest)
    | none => (none, source)
  | [] => (none, [])

/-- Reads the marks at the start of a block, in either order, up to the end of their line. -/
def header? (source : Source) : Option (Ending × Option Nat × Source) := do
  let (first, source) := endingOf source
  let (step, source) ← step? source
  let (second, source) := if first.isSome || step.isNone then (none, source) else endingOf source
  let rest := source.dropWhile (isGap ·.char)
  let rest := if rest.head?.any (·.char = '#') then Source.restOfLine rest else rest
  if rest.head?.all (isBreak ·.char) then
    return ((first <|> second).getD .clip, step, rest.drop 1)
  else none

/-- Passes indentation and lines with nothing else. Gives the line ends, the largest column that
was reached, and what follows. An indentation of zero is one that is not known yet. -/
def pass (indent : Nat) (breaks : List Char) (widest : Nat) :
    Source → Option (List Char × Nat × Source)
  | [] => some (breaks, widest, [])
  | spot :: rest =>
    let isBefore := indent = 0 || spot.column < indent
    if isBefore && spot.char = ' ' then pass indent breaks widest rest
    else if isBefore && spot.char = '\t' then none
    else if isBreak spot.char then
      pass indent (breaks ++ [spot.char]) (max widest spot.column) rest
    else some (breaks, max widest spot.column, spot :: rest)

/-- The lines of a block that were read: their text, the end of the last one, and the empty lines
after it. -/
structure Lines where
  text : List Char := []
  lead : List Char := []
  breaks : List Char := []
  /-- Whether the last line begins with a blank -/
  startsBlank : Bool := false

namespace Lines

/-- What joins the lines so far and the next one. In a folded block a line end between two lines
that begin with a word is a blank, or nothing before empty lines. -/
def joint (lines : Lines) (isFolded nextBlank : Bool) : List Char :=
  if isFolded && lines.lead = ['\n'] && !lines.startsBlank && !nextBlank then
    if lines.breaks.isEmpty then [' '] else lines.breaks
  else lines.lead ++ lines.breaks

def finish (lines : Lines) : Ending → List Char
  | .strip => lines.text
  | .clip => lines.text ++ lines.lead
  | .keep => lines.text ++ lines.lead ++ lines.breaks

end Lines

/-- Reads the lines of a block, of which there are at most `limit`. -/
def readLines (isFolded : Bool) (indent : Nat) (limit : Nat) (lines : Lines) (source : Source) :
    Option (Lines × Source) :=
  match limit, source with
  | limit + 1, spot :: _ =>
    if spot.column = indent then
      let nextBlank := isGap spot.char
      let line := (source.takeWhile (!isBreak ·.char)).map Spot.char
      let after := source.restOfLine
      match pass indent [] 0 (after.drop 1) with
      | some (breaks, _, rest) =>
        readLines isFolded indent limit
          { text := lines.text ++ lines.joint isFolded nextBlank ++ line,
            lead := (after.take 1).map Spot.char, breaks, startsBlank := nextBlank } rest
      | none => none
    else some (lines, source)
  | _, _ => some (lines, source)

/-- Reads a block inside of something that is indented by `parent`, if it is. -/
def read (isFolded : Bool) (parent : Option Nat) (source : Source) : Option Reading := do
  let (ending, step, source) ← header? source
  let least := match parent with
    | some parent => parent + 1
    | none => 1
  let known := match step with
    | some step => parent.getD 0 + step
    | none => 0
  let (breaks, widest, source) ← pass known [] 0 source
  let indent := if known = 0 then max widest least else known
  let (lines, rest) ← readLines isFolded indent source.length { breaks } source
  return ⟨lines.finish ending, rest, true⟩

end Block

end ServiceRecords.Yaml
