import ServiceRecords.Text.Decimal

set_option autoImplicit false

/-!
Numbers as JSON writes them: a sign, digits, and optionally a fraction and an exponent.
The written form is kept, because whether a number counts as a whole number depends on it.
-/

namespace ServiceRecords.Json

structure Number where
  negative : Bool
  /-- The digits before the point, without a needless leading zero -/
  whole : List Char
  /-- The digits after the point, when there is one -/
  fraction : Option (List Char)
  /-- The sign (true is minus) and the digits of the exponent, when there is one -/
  exponent : Option (Bool × List Char)
  deriving DecidableEq

namespace Number

def isDigit (c : Char) : Bool := '0' ≤ c && c ≤ '9'

/-- The longest run of digits, which must not be empty, and what follows it. -/
def digits? (cs : List Char) : Option (List Char × List Char) :=
  match cs.takeWhile isDigit with
  | [] => none
  | digits => some (digits, cs.dropWhile isDigit)

def readFraction? : List Char → Option (Option (List Char) × List Char)
  | '.' :: rest => (digits? rest).map fun (digits, rest) => (some digits, rest)
  | rest => some (none, rest)

def readExponent? : List Char → Option (Option (Bool × List Char) × List Char)
  | c :: rest =>
    if c = 'e' ∨ c = 'E' then
      match rest with
      | '-' :: rest => (digits? rest).map fun (digits, rest) => (some (true, digits), rest)
      | '+' :: rest => (digits? rest).map fun (digits, rest) => (some (false, digits), rest)
      | rest => (digits? rest).map fun (digits, rest) => (some (false, digits), rest)
    else some (none, c :: rest)
  | [] => some (none, [])

def readSign : List Char → Bool × List Char
  | '-' :: rest => (true, rest)
  | rest => (false, rest)

/-- A single zero, or digits that do not begin with zero. -/
def isWhole (digits : List Char) : Bool := digits.head? != some '0' || digits.length == 1

/-- The number that the text begins with, and what follows it. -/
def read? (cs : List Char) : Option (Number × List Char) :=
  match digits? (readSign cs).2 with
  | none => none
  | some (whole, afterWhole) =>
    if isWhole whole then
      match readFraction? afterWhole with
      | none => none
      | some (fraction, afterFraction) =>
        (readExponent? afterFraction).map fun (exponent, rest) =>
          (⟨(readSign cs).1, whole, fraction, exponent⟩, rest)
    else none

theorem digits?_shorter {cs digits rest : List Char} (h : digits? cs = some (digits, rest)) :
    rest.length < cs.length := by
  unfold digits? at h
  split at h
  · simp at h
  · rename_i run
    have nonempty : cs.takeWhile isDigit ≠ [] := run
    have := congrArg List.length (List.takeWhile_append_dropWhile (p := isDigit) (l := cs))
    have := List.length_pos_iff.mpr nonempty
    simp_all
    omega

theorem readFraction?_length {cs rest : List Char} {digits : Option (List Char)}
    (h : readFraction? cs = some (digits, rest)) : rest.length ≤ cs.length := by
  unfold readFraction? at h
  split at h
  · obtain ⟨⟨_, _⟩, found, h⟩ := Option.map_eq_some_iff.mp h
    have := digits?_shorter found
    simp_all
    omega
  · simp_all

theorem readExponent?_length {cs rest : List Char} {digits : Option (Bool × List Char)}
    (h : readExponent? cs = some (digits, rest)) : rest.length ≤ cs.length := by
  unfold readExponent? at h
  split at h
  · split at h
    · split at h <;>
      · obtain ⟨⟨_, _⟩, found, h⟩ := Option.map_eq_some_iff.mp h
        have := digits?_shorter found
        simp_all
        omega
    · simp_all
  · simp_all

theorem readSign_length (cs : List Char) : (readSign cs).2.length ≤ cs.length := by
  unfold readSign
  split <;> simp

theorem read?_shorter {cs rest : List Char} {n : Number} (h : read? cs = some (n, rest)) :
    rest.length < cs.length := by
  have := readSign_length cs
  unfold read? at h
  split at h
  · simp at h
  · rename_i digits_eq
    have := digits?_shorter digits_eq
    split at h
    · split at h
      · simp at h
      · rename_i fraction_eq
        have := readFraction?_length fraction_eq
        obtain ⟨⟨_, _⟩, exponent_eq, h⟩ := Option.map_eq_some_iff.mp h
        have := readExponent?_length exponent_eq
        grind
    · simp at h

def write (n : Number) : List Char :=
  (if n.negative then ['-'] else []) ++ n.whole ++
    (match n.fraction with
      | none => []
      | some digits => '.' :: digits) ++
    (match n.exponent with
      | none => []
      | some (negative, digits) => 'e' :: (if negative then '-' :: digits else digits))

def ofNat (n : Nat) : Number := ⟨false, Nat.toDigits 10 n, none, none⟩

/-- The value of a number written with neither sign, fraction nor exponent. -/
def natural? (n : Number) : Option Nat :=
  if n.negative || n.fraction.isSome || n.exponent.isSome then none
  else some (Nat.ofDigitChars 10 n.whole 0)

/-- The value of a number written with neither fraction nor exponent. -/
def integer? (n : Number) : Option Int :=
  if n.fraction.isSome || n.exponent.isSome then none
  else
    let magnitude : Int := Nat.ofDigitChars 10 n.whole 0
    some (if n.negative then -magnitude else magnitude)

/-- The nearest binary fraction. -/
def toFloat (n : Number) : Float :=
  let fraction := n.fraction.getD []
  let mantissa := Nat.ofDigitChars 10 (n.whole ++ fraction) 0
  let (isSmall, digits) := n.exponent.getD (false, [])
  let power : Int := Nat.ofDigitChars 10 digits 0
  let exponent : Int := (if isSmall then -power else power) - fraction.length
  let magnitude := Text.Decimal.nearest mantissa exponent
  if n.negative then -magnitude else magnitude

end Number

end ServiceRecords.Json
