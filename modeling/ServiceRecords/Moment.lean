import ServiceRecords.Text.Segments

set_option autoImplicit false

/-!
Moments, to the second, and their calendar text `YYYY-MM-DDThh:mm:ssZ`. A text that is read may
do without the marks between numbers, name a fraction of a second, which is dropped, and any offset
from universal time, and end with notes in brackets.
-/

namespace ServiceRecords

/-- Seconds since the start of 1970 in universal time. -/
structure Moment where
  seconds : Int
  deriving DecidableEq, Repr

namespace Moment

def isLeapYear (year : Int) : Bool :=
  year % 4 = 0 && (year % 100 ≠ 0 || year % 400 = 0)

def daysOfMonth (year : Int) : Nat → Nat
  | 2 => if isLeapYear year then 29 else 28
  | 4 | 6 | 9 | 11 => 30
  | _ => 31

/-- Days from the start of 1970 to a date. Years are counted from March, so that the leap day
comes last. -/
def daysOfDate (year : Int) (month day : Nat) : Int :=
  let year := if month ≤ 2 then year - 1 else year
  let century := year.fdiv 400
  let yearOfCentury := year - century * 400
  let monthFromMarch : Int := (month + 9) % 12
  let dayOfYear := (153 * monthFromMarch + 2) / 5 + day - 1
  century * 146097 + (yearOfCentury * 365 + yearOfCentury / 4 - yearOfCentury / 100 + dayOfYear) -
    719468

/-- The year, month and day of a number of days from the start of 1970. -/
def dateOfDays (days : Int) : Int × Int × Int :=
  let days := days + 719468
  let century := days.fdiv 146097
  let dayOfCentury := days - century * 146097
  let yearOfCentury :=
    (dayOfCentury - dayOfCentury / 1460 + dayOfCentury / 36524 - dayOfCentury / 146096) / 365
  let dayOfYear :=
    dayOfCentury - (365 * yearOfCentury + yearOfCentury / 4 - yearOfCentury / 100)
  let monthFromMarch := (5 * dayOfYear + 2) / 153
  let day := dayOfYear - (153 * monthFromMarch + 2) / 5 + 1
  let month := if monthFromMarch < 10 then monthFromMarch + 3 else monthFromMarch - 9
  (yearOfCentury + century * 400 + (if month ≤ 2 then 1 else 0), month, day)

/-- A number with at least `width` digits. -/
def padded (width : Nat) (n : Nat) : List Char :=
  let digits := Nat.toDigits 10 n
  List.replicate (width - digits.length) '0' ++ digits

def text (moment : Moment) : String :=
  let days := moment.seconds.fdiv 86400
  let second := (moment.seconds - days * 86400).toNat
  let (year, month, day) := dateOfDays days
  .ofList <|
    (if year < 0 then '-' :: padded 3 year.natAbs else padded 4 year.natAbs) ++
      '-' :: padded 2 month.toNat ++
      '-' :: padded 2 day.toNat ++ 'T' :: padded 2 (second / 3600) ++
      ':' :: padded 2 (second / 60 % 60) ++ ':' :: padded 2 (second % 60) ++ ['Z']

/-- Exactly `width` digits at the start of a text, as a number below `bound`, and the rest. -/
def digits? (width bound : Nat) (cs : List Char) : Option (Nat × List Char) :=
  let digits := cs.take width
  let value := Nat.ofDigitChars 10 digits 0
  if digits.length = width ∧ digits.all Char.isDigit ∧ value < bound then
    some (value, cs.drop width)
  else none

def mark? (mark : Char → Bool) : List Char → Option (List Char)
  | c :: rest => if mark c then some rest else none
  | [] => none

/-- A year: four digits, or a sign and six. The year zero has no minus. -/
def year? : List Char → Option (Int × List Char)
  | '-' :: rest => do
    let (year, rest) ← digits? 6 10000 rest
    if year = 0 then none else some (-year, rest)
  | '+' :: rest => (digits? 6 10000 rest).map fun (year, rest) => (year, rest)
  | rest => (digits? 4 10000 rest).map fun (year, rest) => (year, rest)

/-- A date, as the number of days from the start of 1970. There are two hyphens in it or none. -/
def date? (text : List Char) : Option (Int × List Char) := do
  let (year, rest) ← year? text
  let isSpaced := rest.head? = some '-'
  let (month, rest) ← digits? 2 13 (rest.drop (if isSpaced then 1 else 0))
  let rest ← if isSpaced then mark? (· == '-') rest else some rest
  let (day, rest) ← digits? 2 32 rest
  if month = 0 ∨ day = 0 ∨ day > daysOfMonth year month then none
  else some (daysOfDate year month day, rest)

/-- The next number of a time or an offset, if there is one: it follows a colon if the first one
did, and otherwise there are two digits. -/
def next? (isSpaced : Bool) (bound : Nat) (text : List Char) : Option (Option Nat × List Char) :=
  let follows :=
    if isSpaced then text.head? = some ':'
    else (text.take 2).length = 2 && (text.take 2).all Char.isDigit
  if follows then
    (digits? 2 bound (text.drop (if isSpaced then 1 else 0))).map fun (n, rest) => (some n, rest)
  else some (none, text)

/-- One to nine digits after a point or a comma, or nothing. -/
def fraction? (text : List Char) : Option (List Char × List Char) :=
  match text with
  | c :: rest =>
    if c = '.' ∨ c = ',' then
      let digits := (rest.take 9).takeWhile Char.isDigit
      if digits.isEmpty then none else some (digits, rest.drop digits.length)
    else some ([], text)
  | [] => some ([], [])

/-- Two or three numbers of a time or an offset in seconds, with the digits of a fraction. All but
the first number may be left out, and a fraction follows only the last. -/
def clock? (hours seconds : Nat) (text : List Char) :
    Option ((Nat × List Char) × List Char) := do
  let (hour, rest) ← digits? 2 hours text
  let isSpaced := rest.head? = some ':'
  let (minute, rest) ← next? isSpaced 60 rest
  match minute with
  | none => return ((hour * 3600, []), rest)
  | some minute =>
    let (second, rest) ← next? isSpaced seconds rest
    match second with
    | none => return ((hour * 3600 + minute * 60, []), rest)
    | some second =>
      let (fraction, rest) ← fraction? rest
      return ((hour * 3600 + minute * 60 + min second 59, fraction), rest)

/-- An offset from universal time in seconds. A half second counts as a whole one, and there is
no more than one second less than 26 hours. -/
def offset? : List Char → Option (Int × List Char)
  | [] => none
  | c :: rest =>
    if c = 'Z' ∨ c = 'z' then some (0, rest)
    else if c = '+' ∨ c = '-' then do
      let ((seconds, fraction), rest) ← clock? 26 60 rest
      let rounded := seconds + (if fraction.head?.any ('5' ≤ ·) then 1 else 0)
      if rounded < 26 * 3600 then some (if c = '-' then -(rounded : Int) else rounded, rest)
      else none
    else none

/-- Whether a text is a part of the name of a time zone. -/
def isZonePart (text : List Char) : Bool :=
  text.head?.any (fun c => c.isAlpha || c = '_' || c = '.') &&
    text.all fun c => c.isAlphanum || c = '_' || c = '.' || c = '+' || c = '-'

/-- Whether a note names a time zone, or an offset of hours and minutes. -/
def isZone (note : List Char) : Bool :=
  let note := if note.head? = some '!' then note.drop 1 else note
  if note.head? = some '+' ∨ note.head? = some '-' then
    note.length ≤ 6 && (offset? note).any fun (_, rest) => rest = []
  else (note.splitOn '/').all isZonePart

/-- Whether a note is a name and values, which say nothing here. -/
def isRemark (note : List Char) : Bool :=
  let key := note.takeWhile (· != '=')
  let isKeyStart (c : Char) : Bool := c.isLower || c = '_'
  key.head?.any isKeyStart && key.all (fun c => isKeyStart c || c.isDigit || c = '-') &&
    key.length < note.length &&
    ((note.drop (key.length + 1)).splitOn '-').all fun value =>
      !value.isEmpty && value.all Char.isAlphanum

/-- Whether a text is a row of notes in brackets, of which the first may name a time zone. -/
def areNotes (text : List Char) : Bool :=
  let parts := text.splitOn ']'
  let notes := parts.dropLast.map (·.drop 1)
  parts.getLast? = some [] && parts.dropLast.all (·.head? = some '[') &&
    (notes.take 1).all (fun note => isZone note || isRemark note) &&
    (notes.drop 1).all isRemark

/-- The first and the last moment that a text can name: with every offset there is a date with at
most four digits in the year. -/
def first : Int := -377705023201

def last : Int := 253402207200

/-- A leap second counts as the second before it. -/
def ofText? (text : String) : Option Moment := do
  let (days, rest) ← date? text.toList
  let rest ← mark? (fun c => c == 'T' || c == 't' || c == ' ') rest
  let ((second, _), rest) ← clock? 24 61 rest
  let (offset, rest) ← offset? rest
  let seconds := days * 86400 + second - offset
  if areNotes rest ∧ first ≤ seconds ∧ seconds ≤ last then some ⟨seconds⟩ else none

end Moment

end ServiceRecords
