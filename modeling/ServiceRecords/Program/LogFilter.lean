import ServiceRecords.CommandLine.Reading
import ServiceRecords.Program.Log
import ServiceRecords.Text.Digits
import ServiceRecords.Unicode.Alphanumeric

set_option autoImplicit false

/-!
Filters of the log. A filter is written as directives between commas. A directive says up to
which level the lines of a part of the program are written, and can ask for the values that a line
holds; directives for what happens inside of a named span say nothing about other lines.
-/

namespace ServiceRecords

structure LogDirective where
  /-- How the names of the parts begin that the directive is for -/
  target : Option String := none
  span : Option String := none
  /-- The names of the values that a line has to hold, and whether they have to match something -/
  fields : List (String × Bool) := []
  /-- The highest rank that is written -/
  rank : Nat := LogLevel.trace.rank
  deriving DecidableEq, Repr

namespace LogDirective

/-- The rank that a digit or the name of a level stands for. -/
def rank? (text : String) : Option Nat :=
  let digits := match text.toList with
    | '+' :: digits => digits
    | digits => digits
  let number := if digits.isEmpty then none else Text.number? 10 digits
  match number.filter (· ≤ LogLevel.trace.rank) with
  | some rank => some rank
  | none => ["off", "error", "warn", "info", "debug", "trace"].idxOf? text.toLower

/-- Whether a text can be matched with others: its brackets close, and what is repeated is there.
`isEmpty` is set where nothing precedes that could be repeated. -/
def isPattern (opened : Nat) (isEmpty inSet : Bool) : List Char → Bool
  | [] => opened = 0 && !inSet
  | '\\' :: _ :: rest => isPattern opened false inSet rest
  | ['\\'] => false
  | c :: rest =>
    if inSet then isPattern opened false (c != ']') rest
    else
      match c with
      | '[' => isPattern opened false true rest
      | '(' => isPattern (opened + 1) true false rest
      | ')' => opened ≠ 0 && isPattern (opened - 1) false false rest
      | '|' => isPattern opened true false rest
      | '\x7b' => false
      | '*' | '+' | '?' => !isEmpty && isPattern opened false false rest
      | _ => isPattern opened false false rest

/-- Reads a name, or a name and what its value has to match. -/
def field? (text : String) : Option (String × Bool) :=
  match Text.segments '=' text with
  | name :: value :: _ => if isPattern 0 true false value.toList then some (name, true) else none
  | name :: _ => some (name, false)
  | [] => none

/-- Where in a directive the reader is; the number is the place where the part begins. -/
inductive State where
  | start
  | word (start : Nat)
  | span (start : Nat)
  | field (start : Nat)
  | fields
  | afterSpan
  | level (start : Nat)
  deriving DecidableEq

/-- The part of a text between two places, counted in bytes, unless a character is cut. -/
def part? (text : String) (start stop : Nat) : Option String :=
  String.fromUTF8? (text.toUTF8.extract start stop)

/-- Whether a directive can begin with a character. -/
def startsWord (c : Char) : Bool :=
  c = '-' || c = ':' || c = '_' || Unicode.isAlphanumeric c

/-- Reads a character at a place of a text. -/
def step? (text : String) (place : Nat) (c : Char) (directive : LogDirective) :
    State → Option (LogDirective × State)
  | .start =>
    if c = '[' then some (directive, .span (place + 1))
    else if startsWord c then some (directive, .word place)
    else none
  | .word start =>
    if c = '=' then do
      return ({ directive with target := ← part? text start place }, .level (place + 1))
    else if c = '[' then do
      return ({ directive with target := ← part? text start place }, .span (place + 1))
    else some (directive, .word start)
  | .span start =>
    if c = ']' then do
      return ({ directive with span := ← part? text start place }, .afterSpan)
    else if c = '\x7b' then do
      let span ← part? text start place
      return ({ directive with span := if span = "" then none else some span },
        .field (place + 1))
    else some (directive, .span start)
  | .field start =>
    if c = '\x7d' then do
      let text ← part? text start place
      if text = "" then none
      return ({ directive with fields := directive.fields ++ [← field? text] }, .fields)
    else some (directive, .field start)
  | .fields => if c = ']' then some (directive, .afterSpan) else none
  | .afterSpan => if c = '=' then some (directive, .level (place + 1)) else none
  | .level start => some (directive, .level start)

/-- The directive at the end of a text. A word alone is a level or a target, and a level that is
left out is the highest. -/
def finish? (text : String) (directive : LogDirective) : State → Option LogDirective
  | .word start => do
    let word ← part? text start text.utf8ByteSize
    match rank? word with
    | some rank => return { directive with rank }
    | none => return { directive with target := word }
  | .level start => do
    let level ← part? text start text.utf8ByteSize
    if level = "" then return directive
    return { directive with rank := ← rank? level }
  | .afterSpan => some directive
  | _ => none

/-- Reads the characters of a trimmed text. Its places are looked up in the text as it was before,
so that blanks in front of a directive become a part of it. -/
def read? (text : String) (place : Nat) (directive : LogDirective) (state : State) :
    List Char → Option LogDirective
  | [] => finish? text directive state
  | c :: rest => do
    let (directive, state) ← step? text place c directive state
    read? text (place + c.utf8Size) directive state rest

def ofText? (text : String) : Option LogDirective :=
  read? text 0 {} .start (Text.trim text).toList

/-- Whether the directive says something about lines wherever they are written. -/
def isStatic (directive : LogDirective) : Bool :=
  directive.span.isNone && !directive.fields.any (·.2)

def fieldNames (directive : LogDirective) : List String := directive.fields.map (·.1)

/-- Whether the directive is for a line. -/
def isFor (directive : LogDirective) (line : LogLine) : Bool :=
  directive.target.all (fun target => (Text.after? target line.target).isSome) &&
    directive.fieldNames.all line.fields.contains

/-- The length of the target; a directive for all is less than any. -/
def reach (directive : LogDirective) : Nat :=
  match directive.target with
  | some target => target.utf8ByteSize + 1
  | none => 0

/-- Whether a directive counts rather than another that is for the same line and comes before
it: it has the longer target, or more names of values, or greater ones. -/
def overrides (directive other : LogDirective) : Bool :=
  if directive.reach ≠ other.reach then other.reach < directive.reach
  else if directive.fields.length ≠ other.fields.length then
    other.fields.length < directive.fields.length
  else !decide (directive.fieldNames < other.fieldNames)

end LogDirective

abbrev LogFilter := List LogDirective

namespace LogFilter

/-- Reads directives between commas; without any, only errors are written. -/
def ofText? (text : String) : Option LogFilter :=
  match (Text.segments ',' text).filter (· != "") with
  | [] => some [{ rank := LogLevel.error.rank }]
  | parts => parts.mapM LogDirective.ofText?

/-- The filter of an environment: levels up to `info` if it does not give a valid one. -/
def ofEnvironment (environment : CommandLine.Environment) : LogFilter :=
  ((environment "RUST_LOG").bind ofText?).getD [{ rank := LogLevel.info.rank }]

/-- The directive that counts for a line. -/
def directive? (filter : LogFilter) (line : LogLine) : Option LogDirective :=
  (filter.filter fun directive => directive.isStatic && directive.isFor line).foldl
    (fun best directive =>
      if best.all directive.overrides then some directive else best) none

def passes (filter : LogFilter) (line : LogLine) : Bool :=
  (filter.directive? line).any (line.level.rank ≤ ·.rank)

end LogFilter

end ServiceRecords
