set_option autoImplicit false

/-!
Labels written with letters and digits only. Such a text holds the plain characters of a label,
and after the last hyphen numbers that say where its other characters stand. A number has digits
of base 36, the least first; a digit below a threshold ends it, and the thresholds follow the
sizes of the numbers before.
-/

namespace ServiceRecords.Web.Punycode

def digit? (c : Char) : Option Nat :=
  if 'a' ≤ c ∧ c ≤ 'z' then some (c.toNat - 'a'.toNat)
  else if 'A' ≤ c ∧ c ≤ 'Z' then some (c.toNat - 'A'.toNat)
  else if '0' ≤ c ∧ c ≤ '9' then some (c.toNat - '0'.toNat + 26)
  else none

/-- The least digit at a position that does not end a number. -/
def threshold (position bias : Nat) : Nat := min 26 (max 1 (position - bias))

/-- Divides by 35 until the number is at most 455, and counts the steps by base. -/
def scale (position number : Nat) : Nat × Nat :=
  if 455 < number then scale (position + 36) (number / 35) else (position, number)
termination_by number
decreasing_by omega

/-- The bias after a number; `count` characters are there with the one that it stands for. -/
def adapt (isFirst : Bool) (number count : Nat) : Nat :=
  let number := if isFirst then number / 700 else number / 2
  let (position, number) := scale 0 (number + number / count)
  position + 36 * number / (number + 38)

/-- The number at the start of a text, its digits times `weight`, and what follows it. Weights
have 32 bits. -/
def number? (bias weight position : Nat) : List Char → Option (Nat × List Char)
  | [] => none
  | c :: rest =>
    match digit? c with
    | none => none
    | some digit =>
      if UInt32.size ≤ weight then none
      else if digit < threshold position bias then some (digit * weight, rest)
      else
        (number? bias (weight * (36 - threshold position bias)) (position + 36) rest).map
          fun (more, rest) => (digit * weight + more, rest)

theorem number?_shorter {bias weight position : Nat} {text rest : List Char} {number : Nat}
    (h : number? bias weight position text = some (number, rest)) :
    rest.length < text.length := by
  fun_induction number? bias weight position text generalizing number with
  | case1 => simp at h
  | case2 => simp at h
  | case3 => simp at h
  | case4 => simp_all
  | case5 weight position c after digit digit_eq fits above ih =>
    obtain ⟨⟨more, last⟩, more_eq, equal⟩ := Option.map_eq_some_iff.mp h
    simp only [Prod.mk.injEq] at equal
    have := ih (equal.2 ▸ more_eq)
    simp only [List.length_cons]
    omega

/-- Whether a number is a character of Unicode. -/
def isCharacter (code : Nat) : Bool := code < 0xD800 || (0xDFFF < code && code < 0x110000)

/-- Inserts a character for every number of the text: the quotient by the number of places is
added to the code of the character before, and the remainder is the place. -/
def insertAll? (code bias index : Nat) (characters text : List Char) : Option (List Char) :=
  match text with
  | [] => some characters
  | c :: rest =>
    match _number_eq : number? bias 1 36 (c :: rest) with
    | none => none
    | some (number, rest) =>
      let places := characters.length + 1
      let code := code + (index + number) / places
      let place := (index + number) % places
      if isCharacter code then
        insertAll? code (adapt (index == 0) number places) (place + 1)
          (characters.take place ++ Char.ofNat code :: characters.drop place) rest
      else none
termination_by text.length
decreasing_by exact number?_shorter _number_eq

/-- The plain characters before the last hyphen, and what follows it. A hyphen at the start
separates nothing. -/
def splitPlain (text : List Char) : List Char × List Char :=
  let numbers := (text.reverse.takeWhile (· != '-')).reverse
  if numbers.length + 1 < text.length then
    (text.take (text.length - numbers.length - 1), numbers)
  else ([], text)

def decode? (text : List Char) : Option (List Char) :=
  let (plain, numbers) := splitPlain text
  insertAll? 128 72 0 plain numbers

end ServiceRecords.Web.Punycode
