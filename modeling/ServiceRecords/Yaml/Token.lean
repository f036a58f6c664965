import ServiceRecords.Yaml.Scalar

set_option autoImplicit false

/-!
Tokens of YAML. `Token.scan?` takes a source apart: it finds the marks and the scalars, and where
collections begin and end by indentation alone. A text on one line may turn out to be a key when
its colon is met; the tokens that say so are put before it then.
-/

namespace ServiceRecords.Yaml

inductive Token where
  | version (major minor : Nat)
  /-- What a handle of tags stands for -/
  | handle (name start : String)
  | documentStart
  | documentEnd
  | blockSequence
  | blockMapping
  | blockEnd
  | flowSequence
  | flowSequenceEnd
  | flowMapping
  | flowMappingEnd
  | flowEntry
  | blockEntry
  | key
  | value
  | alias (name : String)
  | anchor (name : String)
  | tag (handle suffix : String)
  | scalar (text : String) (isPlain : Bool)
  deriving DecidableEq, Repr

/-- What may turn out to be a key. -/
structure Candidate where
  start : Spot
  /-- The number of tokens before it -/
  place : Nat
  /-- Whether it stands where only a key can -/
  isRequired : Bool

namespace Candidate

/-- A key ends on its line, and after at most 1024 characters. -/
def isPassed (candidate : Candidate) (spot : Spot) : Bool :=
  candidate.start.line < spot.line || candidate.start.index + 1024 < spot.index

end Candidate

/-- How far a source has been taken apart. -/
structure Scan where
  source : Source
  tokens : Array Token := #[]
  /-- The columns of the open collections that are given by indentation, the innermost first -/
  columns : List Nat := []
  candidate : Option Candidate := none
  /-- The candidates outside of each open bracket, the innermost first -/
  outer : List (Option Candidate) := []
  /-- Whether a key can begin here -/
  allowsKey : Bool := true

namespace Scan

def isFlow (scan : Scan) : Bool := !scan.outer.isEmpty

def push (scan : Scan) (token : Token) : Scan := { scan with tokens := scan.tokens.push token }

def insert (scan : Scan) (place : Nat) (token : Token) : Scan :=
  { scan with tokens := scan.tokens.insertIdxIfInBounds place token }

/-- Passes blanks, comments and line ends. A key can begin on every line outside of brackets, and
only blanks before it that are no tabs. -/
def pass (isFlow : Bool) (allowsKey inComment : Bool) : Source → Bool × Source
  | [] => (allowsKey, [])
  | spot :: rest =>
    if isBreak spot.char then pass isFlow (allowsKey || !isFlow) false rest
    else if inComment || spot.char = ' ' || (spot.char = '\t' && (isFlow || !allowsKey)) ||
        (spot.char = orderMark && spot.column = 0) then
      pass isFlow allowsKey inComment rest
    else if spot.char = '#' then pass isFlow allowsKey true rest
    else (allowsKey, spot :: rest)

/-- Gives the candidate up, unless it has to be a key. -/
def dropCandidate? (scan : Scan) : Option Scan :=
  if scan.candidate.any (·.isRequired) then none else some { scan with candidate := none }

/-- Takes what begins at a spot for a candidate, if a key can begin here. -/
def saveCandidate? (scan : Scan) (spot : Spot) : Option Scan :=
  if scan.allowsKey then do
    let scan ← scan.dropCandidate?
    let isRequired := !scan.isFlow && scan.columns.head? == some spot.column
    return { scan with candidate := some ⟨spot, scan.tokens.size, isRequired⟩ }
  else some scan

/-- Gives up the candidates that a spot is too far from. -/
def dropPassed? (scan : Scan) (spot : Spot) : Option Scan :=
  let passes (candidate : Option Candidate) : Bool := candidate.any (·.isPassed spot)
  let keep (candidate : Option Candidate) : Option Candidate :=
    candidate.filter (!·.isPassed spot)
  if (scan.candidate :: scan.outer).any fun candidate =>
      passes candidate && candidate.any (·.isRequired) then none
  else some { scan with candidate := keep scan.candidate, outer := scan.outer.map keep }

/-- Ends the collections that are indented further than a column, or all. -/
def unroll (scan : Scan) (column : Option Nat) : Scan :=
  if scan.isFlow then scan
  else
    let goesOn (open_ : Nat) : Bool := column.all (· < open_)
    let ended := scan.columns.takeWhile goesOn
    { scan with
      tokens := scan.tokens ++ ended.map fun _ => Token.blockEnd
      columns := scan.columns.dropWhile goesOn }

/-- Begins a collection at a column, if it is indented further than the one around it. -/
def roll (scan : Scan) (column place : Nat) (token : Token) : Scan :=
  if !scan.isFlow && scan.columns.head?.all (· < column) then
    { scan.insert place token with columns := column :: scan.columns }
  else scan

/-- Begins a collection here with an entry that is written with a mark of its own. -/
def rollHere? (scan : Scan) (spot : Spot) (token : Token) : Option Scan :=
  if scan.isFlow then some scan
  else if scan.allowsKey then some (scan.roll spot.column scan.tokens.size token)
  else none

def isNameChar (c : Char) : Bool := c.isAlphanum || c = '-' || c = '_'

/-- The characters at the start of a source that satisfy a test, and what follows them. -/
def span (test : Char → Bool) (source : Source) : List Char × Source :=
  ((source.takeWhile (test ·.char)).map Spot.char, source.dropWhile (test ·.char))

/-- The name of an anchor, and what follows it. -/
def name? (source : Source) : Option (String × Source) :=
  let (name, rest) := span isNameChar source
  if !name.isEmpty && (Source.isParted rest ||
      rest.head?.any fun spot => "?:,]\x7d%@\x60".toList.contains spot.char) then
    some (.ofList name, rest)
  else none

/-- Characters of addresses. -/
def isAddressChar (isVerbatim : Bool) (c : Char) : Bool :=
  isNameChar c || ";/?:@&=+$.!~*'()%".toList.contains c ||
    (isVerbatim && (c = ',' || c = '[' || c = ']'))

/-- The bytes of an address, in which escapes name bytes. -/
def addressBytes? : List Char → Option (List UInt8)
  | [] => some []
  | '%' :: high :: low :: rest => do
    let code ← Text.number? 16 [high, low]
    return UInt8.ofNat code :: (← addressBytes? rest)
  | '%' :: _ => none
  | c :: rest => (addressBytes? rest).map ((String.singleton c).toUTF8.toList ++ ·)

/-- An address, and what follows it. -/
def address? (isVerbatim : Bool) (source : Source) : Option (String × Source) := do
  let (text, rest) := span (isAddressChar isVerbatim) source
  let bytes ← addressBytes? text
  return (← String.fromUTF8? (ByteArray.mk bytes.toArray), rest)

/-- The handle of a tag, and what follows it: the mark, and perhaps a name and the mark again. -/
def handle (source : Source) : String × Source :=
  let (name, rest) := span isNameChar (source.drop 1)
  if rest.head?.any (·.char = '!') then (.ofList ('!' :: name ++ ['!']), rest.drop 1)
  else (.ofList ('!' :: name), rest)

/-- Reads a tag: an address in angles, or a handle and an address. A mark alone has no handle. -/
def tag? (source : Source) : Option (Token × Source) := do
  if (source.drop 1).head?.any (·.char = '<') then
    let (address, rest) ← address? true (source.drop 2)
    if address.isEmpty || !rest.head?.any (·.char = '>') then none
    return (.tag "" address, rest.drop 1)
  let (handle, rest) := handle source
  let (address, rest) ← address? false rest
  if handle.length ≥ 2 && handle.endsWith "!" then
    if address.isEmpty then none
    return (.tag handle address, rest)
  let suffix := String.ofList (handle.toList.drop 1) ++ address
  return (if suffix.isEmpty then .tag "" "!" else .tag "!" suffix, rest)

/-- The number of a version, which has at most nine digits. -/
def number? (source : Source) : Option (Nat × Source) :=
  let (digits, rest) := span Char.isDigit source
  if digits.isEmpty || digits.length > 9 then none
  else (Text.number? 10 digits).map (·, rest)

def version? (source : Source) : Option (Token × Source) := do
  let (major, rest) ← number? source
  if !rest.head?.any (·.char = '.') then none
  let (minor, rest) ← number? (rest.drop 1)
  return (.version major minor, rest)

/-- Reads what a handle stands for. -/
def handle? (source : Source) : Option (Token × Source) := do
  if !source.head?.any (·.char = '!') then none
  let (name, rest) := handle source
  if !name.endsWith "!" || !rest.head?.any (isGap ·.char) then none
  let (start, rest) ← address? true (rest.dropWhile (isGap ·.char))
  if start.isEmpty || !Source.isParted rest then none
  return (.handle name start, rest)

/-- Reads the line of a directive behind its mark. -/
def directive? (source : Source) : Option (Token × Source) := do
  let (name, rest) := span isNameChar source
  if !Source.isParted rest then none
  let rest := rest.dropWhile (isGap ·.char)
  let (token, rest) ← match String.ofList name with
    | "YAML" => version? rest
    | "TAG" => handle? rest
    | _ => none
  let rest := rest.dropWhile (isGap ·.char)
  let rest := if rest.head?.any (·.char = '#') then Source.restOfLine rest else rest
  if rest.head?.all (isBreak ·.char) then return (token, rest) else none

/-- Takes up a token of the document as a whole. -/
def whole? (scan : Scan) (token : Token) (rest : Source) : Option Scan := do
  let scan ← (scan.unroll none).dropCandidate?
  return { scan.push token with source := rest, allowsKey := false }

/-- Takes up a mark, after which a key may begin. -/
def mark? (scan : Scan) (token : Token) (rest : Source) (allowsKey : Bool) : Option Scan := do
  let scan ← scan.dropCandidate?
  return { scan.push token with source := rest, allowsKey }

def opening? (scan : Scan) (spot : Spot) (token : Token) (rest : Source) : Option Scan := do
  let scan ← scan.saveCandidate? spot
  return { scan.push token with
    source := rest, outer := scan.candidate :: scan.outer, candidate := none, allowsKey := true }

/-- Takes up a closing bracket. -/
def closing? (scan : Scan) (token : Token) (rest : Source) : Option Scan := do
  let scan ← scan.dropCandidate?
  let scan := { scan.push token with source := rest, allowsKey := false }
  match scan.outer with
  | [] => return scan
  | candidate :: outer => return { scan with candidate, outer }

/-- Takes up a colon: behind a candidate, which is a key then, or behind a key with a mark. -/
def value? (scan : Scan) (spot : Spot) (rest : Source) : Option Scan :=
  match scan.candidate with
  | some key =>
    let scan := (scan.insert key.place .key).roll key.start.column key.place .blockMapping
    some { scan.push .value with source := rest, candidate := none, allowsKey := false }
  | none => do
    let scan ← scan.rollHere? spot .blockMapping
    return { scan.push .value with source := rest, allowsKey := !scan.isFlow }

/-- Takes up something that could be a key, behind which no other can begin. -/
def content? (scan : Scan) (spot : Spot) (token : Token) (rest : Source) (hasLines : Bool) :
    Option Scan := do
  let scan ← scan.saveCandidate? spot
  return { scan.push token with source := rest, allowsKey := hasLines }

def block? (scan : Scan) (isFolded : Bool) (rest : Source) : Option Scan := do
  let scan ← scan.dropCandidate?
  let reading ← Block.read isFolded scan.columns.head? rest
  return { scan.push (.scalar (.ofList reading.text) false) with
    source := reading.rest, allowsKey := true }

/-- Characters that no scalar without quotes begins with, unless some of them are followed by
another character. -/
def marks : List Char :=
  "-?:,[]\x7b\x7d#&*!|>'\"%@\x60".toList

def plain? (scan : Scan) (spot : Spot) (rest : Source) : Option Scan := do
  let next := rest.head?.map Spot.char
  let isWord := !(isGap spot.char || marks.contains spot.char) ||
    (spot.char = '-' && !next.any isGap) ||
    (!scan.isFlow && (spot.char = '?' || spot.char = ':') && !Source.isParted rest)
  if !isWord then none
  let indent := match scan.columns.head? with
    | some column => column + 1
    | none => 0
  let reading ← Plain.read scan.isFlow indent [] .none (spot :: rest)
  scan.content? spot (.scalar (.ofList reading.text) true) reading.rest reading.hasLines

/-- Takes up the token that begins with a character. -/
def token? (scan : Scan) (spot : Spot) (rest : Source) : Option Scan :=
  let isLast := Source.isParted rest
  if spot.column = 0 ∧ spot.char = '%' then
    (directive? rest).bind fun (token, rest) => scan.whole? token rest
  else if Source.startsWith "---" (spot :: rest) then scan.whole? .documentStart (rest.drop 2)
  else if Source.startsWith "..." (spot :: rest) then scan.whole? .documentEnd (rest.drop 2)
  else
    match spot.char with
    | '[' => scan.opening? spot .flowSequence rest
    | '\x7b' => scan.opening? spot .flowMapping rest
    | ']' => scan.closing? .flowSequenceEnd rest
    | '\x7d' => scan.closing? .flowMappingEnd rest
    | ',' => scan.mark? .flowEntry rest true
    | '*' => (name? rest).bind fun (name, rest) => scan.content? spot (.alias name) rest false
    | '&' => (name? rest).bind fun (name, rest) => scan.content? spot (.anchor name) rest false
    | '!' =>
      (tag? (spot :: rest)).bind fun (token, rest) =>
        if Source.isParted rest || (scan.isFlow && rest.head?.any (·.char = ',')) then
          scan.content? spot token rest false
        else none
    | '\'' | '"' =>
      (Quoted.read spot.char [] .none rest).bind fun reading =>
        scan.content? spot (.scalar (.ofList reading.text) false) reading.rest false
    | c =>
      if c = '-' ∧ isLast then
        (scan.rollHere? spot .blockSequence).bind (·.mark? .blockEntry rest true)
      else if c = '?' ∧ (scan.isFlow ∨ isLast) then
        (scan.rollHere? spot .blockMapping).bind (·.mark? .key rest !scan.isFlow)
      else if c = ':' ∧ (scan.isFlow ∨ isLast) then scan.value? spot rest
      else if c = '|' ∧ !scan.isFlow then scan.block? false rest
      else if c = '>' ∧ !scan.isFlow then scan.block? true rest
      else scan.plain? spot rest

/-- Takes up the tokens up to the end of the source, of which there are at most `limit`. -/
def run (limit : Nat) (scan : Scan) : Option (List Token) :=
  let (allowsKey, source) := pass scan.isFlow scan.allowsKey false scan.source
  match limit, source with
  | _, [] => ((scan.unroll none).dropCandidate?).map (·.tokens.toList)
  | 0, _ => none
  | limit + 1, spot :: rest =>
    (({ scan with allowsKey, source }).dropPassed? spot).bind fun scan =>
      ((scan.unroll spot.column).token? spot rest).bind (run limit)

end Scan

/-- The tokens of a source, if it can be taken apart. -/
def Token.scan? (source : Source) : Option (List Token) :=
  ({ source : Scan }).run (source.length + 1)

end ServiceRecords.Yaml
