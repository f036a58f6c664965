import ServiceRecords.Text.Blank
import ServiceRecords.Text.Digits

set_option autoImplicit false

/-!
Tables of characters. A table is written as words: the code of a character in hexadecimal, or the
first and the last of a range, or every second or fourth character of one, such as `100-12E/2`.
-/

namespace ServiceRecords.Unicode

/-- Every `step`-th character from the first to the last. -/
structure Range where
  first : Nat
  last : Nat
  step : Nat := 1
  deriving DecidableEq, Repr

/-- A text up to a character, and what follows that. -/
def cut (separator : Char) (text : List Char) : List Char × List Char :=
  (text.takeWhile (· != separator), (text.dropWhile (· != separator)).drop 1)

/-- The words of a text, that is, what stands between its blanks. -/
def words (text : String) : List (List Char) :=
  (text.toList.splitOnP Text.isBlank).filter (!·.isEmpty)

/-- The code that a word names. -/
def code (word : List Char) : Nat := (Text.number? 16 word).getD 0

namespace Range

def covers (range : Range) (code : Nat) : Bool :=
  range.first ≤ code && code ≤ range.last && (code - range.first) % range.step == 0

def read (word : List Char) : Range :=
  let (ends, step) := cut '/' word
  let (first, last) := cut '-' ends
  ⟨code first, code (if last.isEmpty then first else last), if step.isEmpty then 1 else code step⟩

def list (text : String) : List Range := (words text).map read

end Range

def covers (ranges : List Range) (c : Char) : Bool := ranges.any (·.covers c.toNat)

end ServiceRecords.Unicode
