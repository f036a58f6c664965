import Mathlib.Data.List.TakeWhile
import Mathlib.Tactic.Common
import ServiceRecords.Json.Token

set_option autoImplicit false

/-!
# Spellings of tokens

A JSON text leaves some freedom to its writer. A character can stand for itself or be escaped, an
exponent has a letter of either case, and there may be space around the tokens.
`Token.Spells` says how a token can be written and `Token.SpellAll` how many of them can, one after
the other. Scanning takes every text apart into tokens that it spells (`spellAll_of_scan`), and a
spelled token is read whatever comes after it, as long as that does not go on with it
(`scan_spelled`).
-/

namespace ServiceRecords.Json

namespace Number

/-- At least one digit and nothing else. -/
def IsDigits (digits : List Char) : Prop := digits ≠ [] ∧ ∀ c ∈ digits, isDigit c = true

inductive SpellsFraction : Option (List Char) → List Char → Prop
  | absent : SpellsFraction none []
  | point {digits : List Char} (valid : IsDigits digits) :
      SpellsFraction (some digits) ('.' :: digits)

inductive SpellsExponent : Option (Bool × List Char) → List Char → Prop
  | absent : SpellsExponent none []
  | unsigned {letter : Char} {digits : List Char} (marks : letter = 'e' ∨ letter = 'E')
      (valid : IsDigits digits) : SpellsExponent (some (false, digits)) (letter :: digits)
  | plus {letter : Char} {digits : List Char} (marks : letter = 'e' ∨ letter = 'E')
      (valid : IsDigits digits) : SpellsExponent (some (false, digits)) (letter :: '+' :: digits)
  | minus {letter : Char} {digits : List Char} (marks : letter = 'e' ∨ letter = 'E')
      (valid : IsDigits digits) : SpellsExponent (some (true, digits)) (letter :: '-' :: digits)

/-- A sign, digits without a needless zero before them, and what follows the point and the letter
of the exponent. -/
inductive Spells : Number → List Char → Prop
  | parts {negative : Bool} {whole : List Char} {fraction : Option (List Char)}
      {exponent : Option (Bool × List Char)} {places power : List Char} (valid : IsDigits whole)
      (needed : isWhole whole = true) (spelledFraction : SpellsFraction fraction places)
      (spelledExponent : SpellsExponent exponent power) :
      Spells ⟨negative, whole, fraction, exponent⟩
        ((if negative then ['-'] else []) ++ (whole ++ (places ++ power)))

/-- Nothing that goes on with digits. -/
def Stops (rest : List Char) : Prop := ∀ c, rest.head? = some c → isDigit c = false

/-- Neither a digit nor anything else that can go on with a number. -/
def Ends (rest : List Char) : Prop :=
  ∀ c, rest.head? = some c → isDigit c = false ∧ c ≠ '.' ∧ c ≠ 'e' ∧ c ≠ 'E'

variable {cs digits rest : List Char} {n : Number}

theorem ends_cons {c : Char} (other : isDigit c = false ∧ c ≠ '.' ∧ c ≠ 'e' ∧ c ≠ 'E')
    (rest : List Char) : Ends (c :: rest) := by
  intro d first
  obtain rfl : c = d := by simpa using first
  exact other

theorem digits?_append (valid : IsDigits digits) (stops : Stops rest) :
    digits? (digits ++ rest) = some (digits, rest) := by
  obtain ⟨nonempty, all⟩ := valid
  have stop : rest.takeWhile isDigit = [] ∧ rest.dropWhile isDigit = rest := by
    cases rest with
    | nil => exact ⟨rfl, rfl⟩
    | cons c rest => simp [stops c rfl]
  unfold digits?
  rw [List.takeWhile_append_of_pos all, List.dropWhile_append_of_pos all, stop.1, stop.2,
    List.append_nil]
  cases digits with
  | nil => exact absurd rfl nonempty
  | cons => rfl

theorem readSign_of_isDigit {c : Char} {cs : List Char} (digit : isDigit c = true) :
    readSign (c :: cs) = (false, c :: cs) := by
  unfold readSign
  split
  · rename_i minus
    obtain rfl : c = '-' := by simpa using (List.cons.inj minus).1
    exact absurd digit (by decide)
  · rfl

theorem readSign_append (negative : Bool) (valid : IsDigits digits) :
    readSign ((if negative then ['-'] else []) ++ (digits ++ rest)) =
      (negative, digits ++ rest) := by
  cases negative with
  | true => rfl
  | false =>
    obtain ⟨c, others, rfl⟩ := List.exists_cons_of_ne_nil valid.1
    exact readSign_of_isDigit (valid.2 c (List.mem_cons_self ..))

theorem SpellsExponent.read {exponent : Option (Bool × List Char)} {power : List Char}
    (spells : SpellsExponent exponent power) (ends : Ends rest) :
    readExponent? (power ++ rest) = some (exponent, rest) := by
  have stops : Stops rest := fun c first => (ends c first).1
  cases spells with
  | absent =>
    cases rest with
    | nil => rfl
    | cons c rest => simp [readExponent?, (ends c rfl).2.2.1, (ends c rfl).2.2.2]
  | unsigned marks valid =>
    obtain ⟨c, others, rfl⟩ := List.exists_cons_of_ne_nil valid.1
    have digit := valid.2 c (List.mem_cons_self ..)
    have found := digits?_append valid stops
    simp only [List.cons_append] at found ⊢
    rw [readExponent?, if_pos marks, found]
    · rfl
    · rintro _ ⟨rfl, -⟩
      exact absurd digit (by decide)
    · rintro _ ⟨rfl, -⟩
      exact absurd digit (by decide)
  | plus marks valid =>
    simp only [List.cons_append]
    rw [readExponent?, if_pos marks, digits?_append valid stops]
    rfl
  | minus marks valid =>
    simp only [List.cons_append]
    rw [readExponent?, if_pos marks, digits?_append valid stops]
    rfl

/-- The exponent does not begin with a digit or a point. -/
theorem SpellsExponent.stops {exponent : Option (Bool × List Char)} {power : List Char}
    (spells : SpellsExponent exponent power) (ends : Ends rest) :
    ∀ c, (power ++ rest).head? = some c → isDigit c = false ∧ c ≠ '.' := by
  have letters : ∀ letter : Char, letter = 'e' ∨ letter = 'E' →
      isDigit letter = false ∧ letter ≠ '.' := by
    rintro letter (rfl | rfl) <;> decide
  intro c first
  cases spells with
  | absent => exact ⟨(ends c first).1, (ends c first).2.1⟩
  | unsigned marks | plus marks | minus marks =>
    obtain rfl := Option.some.inj first
    exact letters _ marks

theorem SpellsFraction.read {fraction : Option (List Char)} {places : List Char}
    (spells : SpellsFraction fraction places)
    (stops : ∀ c, rest.head? = some c → isDigit c = false ∧ c ≠ '.') :
    readFraction? (places ++ rest) = some (fraction, rest) ∧ Stops (places ++ rest) := by
  cases spells with
  | absent =>
    refine ⟨?_, fun c first => (stops c first).1⟩
    rw [List.nil_append]
    unfold readFraction?
    split
    · exact absurd rfl (stops '.' rfl).2
    · rfl
  | point valid =>
    constructor
    · rw [List.cons_append, readFraction?, digits?_append valid fun c first => (stops c first).1]
      rfl
    · intro c first
      obtain rfl := Option.some.inj first
      decide

theorem Spells.exists_cons (spells : n.Spells cs) :
    ∃ c tail, cs = c :: tail ∧ (c = '-' ∨ isDigit c = true) := by
  obtain @⟨negative, whole, _, _, _, _, valid, -, -, -⟩ := spells
  obtain ⟨c, others, rfl⟩ := List.exists_cons_of_ne_nil valid.1
  cases negative with
  | true => exact ⟨'-', _, rfl, .inl rfl⟩
  | false => exact ⟨c, _, rfl, .inr (valid.2 c (List.mem_cons_self ..))⟩

/-- A spelled number is read whole. -/
theorem read?_spelled (spells : n.Spells cs) (ends : Ends rest) :
    read? (cs ++ rest) = some (n, rest) := by
  obtain ⟨valid, needed, spelledFraction, spelledExponent⟩ := spells
  obtain ⟨fraction, stops⟩ := spelledFraction.read (spelledExponent.stops ends)
  unfold read?
  simp only [List.append_assoc, readSign_append _ valid, digits?_append valid stops, needed,
    fraction, spelledExponent.read ends]
  rfl

/-! ### What has been read -/

theorem isDigits_of_digits? (found : digits? cs = some (digits, rest)) :
    IsDigits digits ∧ digits ++ rest = cs := by
  unfold digits? at found
  split at found
  · cases found
  · rename_i nonempty
    obtain ⟨rfl, rfl⟩ := Prod.mk.inj (Option.some.inj found)
    exact ⟨⟨nonempty, fun c => List.mem_takeWhile_imp⟩,
      List.takeWhile_append_dropWhile⟩

theorem exists_spellsFraction {fraction : Option (List Char)}
    (found : readFraction? cs = some (fraction, rest)) :
    ∃ places, SpellsFraction fraction places ∧ places ++ rest = cs := by
  unfold readFraction? at found
  split at found
  · obtain ⟨⟨digits, others⟩, digits_eq, same⟩ := Option.map_eq_some_iff.mp found
    obtain ⟨rfl, rfl⟩ := Prod.mk.inj same
    obtain ⟨valid, rfl⟩ := isDigits_of_digits? digits_eq
    exact ⟨_, .point valid, rfl⟩
  · obtain ⟨rfl, rfl⟩ := Prod.mk.inj (Option.some.inj found)
    exact ⟨[], .absent, rfl⟩

theorem exists_spellsExponent {exponent : Option (Bool × List Char)}
    (found : readExponent? cs = some (exponent, rest)) :
    ∃ power, SpellsExponent exponent power ∧ power ++ rest = cs := by
  unfold readExponent? at found
  split at found
  · split at found
    · rename_i marks
      split at found
      all_goals
        obtain ⟨⟨digits, others⟩, digits_eq, same⟩ := Option.map_eq_some_iff.mp found
        obtain ⟨rfl, rfl⟩ := Prod.mk.inj same
        obtain ⟨valid, rfl⟩ := isDigits_of_digits? digits_eq
      · exact ⟨_, .minus marks valid, rfl⟩
      · exact ⟨_, .plus marks valid, rfl⟩
      · exact ⟨_, .unsigned marks valid, rfl⟩
    · obtain ⟨rfl, rfl⟩ := Prod.mk.inj (Option.some.inj found)
      exact ⟨[], .absent, rfl⟩
  · obtain ⟨rfl, rfl⟩ := Prod.mk.inj (Option.some.inj found)
    exact ⟨[], .absent, rfl⟩

theorem readSign_append_snd (cs : List Char) :
    (if (readSign cs).1 then ['-'] else []) ++ (readSign cs).2 = cs := by
  unfold readSign
  split <;> rfl

theorem exists_spells (found : read? cs = some (n, rest)) :
    ∃ spelled, n.Spells spelled ∧ spelled ++ rest = cs := by
  unfold read? at found
  split at found
  · cases found
  · rename_i whole afterWhole digits_eq
    split at found
    · rename_i needed
      split at found
      · cases found
      · rename_i fraction afterFraction fraction_eq
        obtain ⟨⟨exponent, others⟩, exponent_eq, same⟩ := Option.map_eq_some_iff.mp found
        obtain ⟨rfl, rfl⟩ := Prod.mk.inj same
        obtain ⟨valid, shape⟩ := isDigits_of_digits? digits_eq
        obtain ⟨places, spelledFraction, rfl⟩ := exists_spellsFraction fraction_eq
        obtain ⟨power, spelledExponent, rfl⟩ := exists_spellsExponent exponent_eq
        refine ⟨_, .parts valid needed spelledFraction spelledExponent, ?_⟩
        rw [List.append_assoc, List.append_assoc, List.append_assoc, shape, readSign_append_snd]
    · cases found

end Number

namespace Piece

/-- The letters of one-letter escapes with the characters that they name. -/
def escapes : List (Char × Char) :=
  [('"', '"'), ('\\', '\\'), ('/', '/'), ('b', '\x08'), ('f', '\x0c'), ('n', '\n'), ('r', '\r'),
    ('t', '\t')]

/-- A hexadecimal digit of either case. -/
def IsHexDigit (value : Nat) (c : Char) : Prop :=
  value < 16 ∧ (c = value.digitChar ∨ c = value.digitChar.toUpper)

instance (value : Nat) (c : Char) : Decidable (IsHexDigit value c) :=
  inferInstanceAs (Decidable (_ ∧ _))

/-- How one piece can be written between quotes. -/
inductive Spells : Piece → List Char → Prop
  | plain {c : Char} (unquoted : c ≠ '"') (unescaped : c ≠ '\\') (printable : 0x20 ≤ c.toNat) :
      Spells (.character c) [c]
  | letter {letter c : Char} (named : (letter, c) ∈ escapes) : Spells (.character c) ['\\', letter]
  | unit {w x y z : Nat} {a b c d : Char} (first : IsHexDigit w a) (second : IsHexDigit x b)
      (third : IsHexDigit y c) (fourth : IsHexDigit z d) :
      Spells (.unit (((w * 16 + x) * 16 + y) * 16 + z)) ['\\', 'u', a, b, c, d]

inductive SpellAll : List Piece → List Char → Prop
  | nil : SpellAll [] []
  | cons {piece : Piece} {pieces : List Piece} {cs rest : List Char} (spells : piece.Spells cs)
      (following : SpellAll pieces rest) : SpellAll (piece :: pieces) (cs ++ rest)

/-- Which characters the pieces name. A character beyond the first 2^16 is named by a pair of units,
of which neither is a character. -/
inductive Names : List Piece → List Char → Prop
  | nil : Names [] []
  | character {c : Char} {pieces : List Piece} {cs : List Char} (following : Names pieces cs) :
      Names (.character c :: pieces) (c :: cs)
  | unit {c : Char} {pieces : List Piece} {cs : List Char} (following : Names pieces cs) :
      Names (.unit c.toNat :: pieces) (c :: cs)
  | pair {high low : Nat} {c : Char} {pieces : List Piece} {cs : List Char}
      (isHigh : 0xD800 ≤ high ∧ high < 0xDC00) (isLow : 0xDC00 ≤ low ∧ low < 0xE000)
      (code : c.toNat = 0x10000 + (high - 0xD800) * 0x400 + (low - 0xDC00))
      (following : Names pieces cs) : Names (.unit high :: .unit low :: pieces) (c :: cs)

variable {piece : Piece} {pieces : List Piece} {cs rest named : List Char}

theorem escaped?_eq_some {letter c : Char} : escaped? letter = some c ↔ (letter, c) ∈ escapes := by
  constructor
  · intro found
    unfold escaped? at found
    split at found <;> cases found <;> decide
  · intro member
    simp only [escapes, List.mem_cons, Prod.mk.injEq, List.not_mem_nil, or_false] at member
    rcases member with ⟨rfl, rfl⟩ | ⟨rfl, rfl⟩ | ⟨rfl, rfl⟩ | ⟨rfl, rfl⟩ | ⟨rfl, rfl⟩ | ⟨rfl, rfl⟩ |
      ⟨rfl, rfl⟩ | ⟨rfl, rfl⟩ <;> rfl

theorem digitValue?_eq_some {value : Nat} {c : Char} :
    Text.digitValue? c = some value ↔ IsHexDigit value c := by
  constructor
  · intro found
    have small : c.toNat < 128 := by
      unfold Text.digitValue? at found
      split at found
      · rename_i digit
        exact Nat.lt_of_le_of_lt (UInt32.le_iff_toNat_le.mp digit.2) (by decide)
      · split at found
        · rename_i digit
          exact Nat.lt_of_le_of_lt (UInt32.le_iff_toNat_le.mp digit.2) (by decide)
        · split at found
          · rename_i digit
            exact Nat.lt_of_le_of_lt (UInt32.le_iff_toNat_le.mp digit.2) (by decide)
          · cases found
    have tested : ∀ code < 128, ∀ value ∈ Text.digitValue? (Char.ofNat code),
        IsHexDigit value (Char.ofNat code) := by
      decide +kernel
    have digit := tested c.toNat small
    rw [Char.ofNat_toNat] at digit
    exact digit value found
  · rintro ⟨small, digit⟩
    have tested : ∀ value < 16, Text.digitValue? value.digitChar = some value ∧
        Text.digitValue? value.digitChar.toUpper = some value := by
      decide +kernel
    rcases digit with rfl | rfl
    · exact (tested value small).1
    · exact (tested value small).2

theorem number?_concat {digits : List Char} {c : Char} {code : Nat} :
    Text.number? 16 (digits ++ [c]) = some code ↔ ∃ before value,
      Text.number? 16 digits = some before ∧ IsHexDigit value c ∧ before * 16 + value = code := by
  simp only [Text.number?, List.foldl_append, List.foldl_cons, List.foldl_nil, bind, pure,
    Option.bind_eq_some_iff, ← digitValue?_eq_some]
  constructor
  · rintro ⟨value, digit, read⟩
    split at read
    · obtain ⟨before, found, same⟩ := Option.bind_eq_some_iff.mp read
      exact ⟨before, value, found, digit, Option.some.inj same⟩
    · cases read
  · rintro ⟨before, value, found, digit, rfl⟩
    refine ⟨value, digit, ?_⟩
    rw [if_pos (digitValue?_eq_some.mp digit).1, found]
    rfl

theorem number?_eq_some {a b c d : Char} {code : Nat} :
    Text.number? 16 [a, b, c, d] = some code ↔ ∃ w x y z, IsHexDigit w a ∧ IsHexDigit x b ∧
      IsHexDigit y c ∧ IsHexDigit z d ∧ ((w * 16 + x) * 16 + y) * 16 + z = code := by
  have begins (before : Nat) : Text.number? 16 [] = some before ↔ before = 0 := by
    simp [Text.number?, eq_comm]
  rw [show [a, b, c, d] = ((([] ++ [a]) ++ [b]) ++ [c]) ++ [d] from rfl]
  simp only [number?_concat, begins]
  constructor
  · rintro ⟨_, z, ⟨_, y, ⟨_, x, ⟨_, w, rfl, first, rfl⟩, second, rfl⟩, third, rfl⟩, fourth, rfl⟩
    exact ⟨w, x, y, z, first, second, third, fourth, by rw [Nat.zero_mul, Nat.zero_add]⟩
  · rintro ⟨w, x, y, z, first, second, third, fourth, rfl⟩
    exact ⟨_, z, ⟨_, y, ⟨_, x, ⟨_, w, rfl, first, by rw [Nat.zero_mul, Nat.zero_add]⟩, second, rfl⟩,
      third, rfl⟩, fourth, rfl⟩
/-- A spelled piece is read before what follows it. -/
theorem read_spelled (spells : piece.Spells cs) (rest : List Char) :
    read (cs ++ rest) = (read rest).map fun (pieces, rest) => (piece :: pieces, rest) := by
  cases spells with
  | plain unquoted unescaped printable =>
    rw [List.singleton_append, read.eq_def]
    split
    · rename_i shape
      cases shape
    · rename_i shape
      exact absurd (List.cons.inj shape).1 unquoted
    · rename_i shape
      exact absurd (List.cons.inj shape).1 unescaped
    · rename_i shape
      exact absurd (List.cons.inj shape).1 unescaped
    · rename_i shape
      obtain ⟨rfl, rfl⟩ := List.cons.inj shape
      rw [if_neg (not_or.mpr ⟨unescaped, Nat.not_lt_of_le printable⟩)]
  | @letter letter c named =>
    have named := escaped?_eq_some.mpr named
    have other : letter ≠ 'u' := by
      rintro rfl
      cases named
    rw [List.cons_append, List.singleton_append, read]
    · rw [named]
      cases read rest <;> rfl
    · rintro _ _ _ _ _ rfl
      exact absurd rfl other
  | unit first second third fourth =>
    have code := number?_eq_some.mpr ⟨_, _, _, _, first, second, third, fourth, rfl⟩
    simp only [List.cons_append, List.nil_append]
    rw [read, code]
    cases read rest <;> rfl

theorem read_append (spelled : SpellAll pieces cs) (rest : List Char) :
    read (cs ++ '"' :: rest) = some (pieces, rest) := by
  induction spelled with
  | nil => simp [read]
  | cons spells _ ih =>
    rw [List.append_assoc, read_spelled spells, ih]
    rfl

theorem exists_spellAll (found : read cs = some (pieces, rest)) :
    ∃ spelled, SpellAll pieces spelled ∧ spelled ++ '"' :: rest = cs := by
  fun_induction read cs generalizing pieces rest with
  | case1 => cases found
  | case2 rest =>
    cases found
    exact ⟨[], .nil, rfl⟩
  | case3 a b c d rest code others after read_eq number_eq ih =>
    cases found
    obtain ⟨w, x, y, z, first, second, third, fourth, rfl⟩ := number?_eq_some.mp number_eq
    obtain ⟨spelled, following, rfl⟩ := ih read_eq
    exact ⟨_, .cons (.unit first second third fourth) following, rfl⟩
  | case4 => cases found
  | case5 letter rest _ c others after read_eq escaped_eq ih =>
    cases found
    obtain ⟨spelled, following, rfl⟩ := ih read_eq
    exact ⟨_, .cons (.letter (escaped?_eq_some.mp escaped_eq)) following, rfl⟩
  | case6 => cases found
  | case7 => cases found
  | case8 c rest unquoted _ _ plain ih =>
    obtain ⟨⟨others, after⟩, read_eq, same⟩ := Option.map_eq_some_iff.mp found
    cases same
    obtain ⟨spelled, following, rfl⟩ := ih read_eq
    rw [not_or, Nat.not_lt] at plain
    exact ⟨_, .cons (.plain unquoted plain.1 plain.2) following, rfl⟩

theorem characters?_character (c : Char) (pieces : List Piece) :
    characters? (.character c :: pieces) = (characters? pieces).map (c :: ·) := by
  rw [characters?]

/-- A unit that is a character does not pair with what follows it. -/
theorem characters?_unit (c : Char) (pieces : List Piece) :
    characters? (.unit c.toNat :: pieces) = (characters? pieces).map (c :: ·) := by
  have scalar : c.toNat < 0xD800 ∨ 0xDFFF < c.toNat ∧ c.toNat < 0x110000 := c.valid
  have alone : ¬(0xD800 ≤ c.toNat ∧ c.toNat < 0xE000) ∧ ¬(0xD800 ≤ c.toNat ∧ c.toNat < 0xDC00) ∧
      ¬(0xDC00 ≤ c.toNat ∧ c.toNat < 0xE000) := by
    omega
  rcases pieces with _ | ⟨_ | _, _⟩ <;> simp [characters?, alone]

theorem characters?_of_names (names : Names pieces named) : characters? pieces = some named := by
  induction names with
  | nil => rfl
  | character _ ih => rw [characters?_character, ih, Option.map_some]
  | unit _ ih => rw [characters?_unit, ih, Option.map_some]
  | pair isHigh isLow code _ ih =>
    rw [characters?, if_pos isHigh, if_pos isLow, ih, ← code, Char.ofNat_toNat, Option.map_some]

/-- Four digits make a number below 2^16. -/
theorem lt_of_spellAll (spelled : SpellAll pieces cs) :
    ∀ code, Piece.unit code ∈ pieces → code < 0x10000 := by
  induction spelled with
  | nil => simp
  | cons spells _ ih =>
    intro code member
    rcases List.mem_cons.mp member with rfl | member
    · cases spells with
      | unit first second third fourth =>
        have digits : _ < 16 ∧ _ < 16 ∧ _ < 16 ∧ _ < 16 := ⟨first.1, second.1, third.1, fourth.1⟩
        omega
    · exact ih code member

theorem toNat_ofNat {code : Nat} (scalar : code.isValidChar) : (Char.ofNat code).toNat = code := by
  rw [Char.ofNat, dif_pos scalar]
  rfl

theorem names_unit {code : Nat} (scalar : code.isValidChar) (following : Names pieces named) :
    Names (.unit code :: pieces) (Char.ofNat code :: named) := by
  have unit : Names (.unit (Char.ofNat code).toNat :: pieces) (Char.ofNat code :: named) :=
    .unit following
  rwa [toNat_ofNat scalar] at unit

theorem names_of_characters? (small : ∀ code, Piece.unit code ∈ pieces → code < 0x10000)
    (found : characters? pieces = some named) : Names pieces named := by
  fun_induction characters? pieces generalizing named with
  | case1 =>
    cases found
    exact .nil
  | case2 c rest ih =>
    obtain ⟨others, named, rfl⟩ := Option.map_eq_some_iff.mp found
    exact .character (ih (fun code member => small code (List.mem_cons_of_mem _ member)) named)
  | case3 high low rest isHigh isLow ih =>
    obtain ⟨others, named, rfl⟩ := Option.map_eq_some_iff.mp found
    refine .pair isHigh isLow (toNat_ofNat ?_) (ih ?_ named)
    · omega
    · intro code member
      exact small code (List.mem_cons_of_mem _ (List.mem_cons_of_mem _ member))
  | case4 => cases found
  | case5 => cases found
  | case6 high low rest notHigh notLow ih =>
    obtain ⟨others, named, rfl⟩ := Option.map_eq_some_iff.mp found
    have small' := small high (List.mem_cons_self ..)
    refine names_unit (by omega) (ih ?_ named)
    exact fun code member => small code (List.mem_cons_of_mem _ member)
  | case7 => cases found
  | case8 code rest _ alone ih =>
    obtain ⟨others, named, rfl⟩ := Option.map_eq_some_iff.mp found
    have small' := small code (List.mem_cons_self ..)
    refine names_unit (by omega) (ih ?_ named)
    exact fun code member => small code (List.mem_cons_of_mem _ member)

theorem text?_eq_some (spelled : SpellAll pieces cs) {text : String} :
    text? pieces = some text ↔ Names pieces text.toList := by
  unfold text?
  constructor
  · intro found
    obtain ⟨named, read_eq, rfl⟩ := Option.map_eq_some_iff.mp found
    rw [String.toList_ofList]
    exact names_of_characters? (lt_of_spellAll spelled) read_eq
  · intro names
    rw [characters?_of_names names, Option.map_some, String.ofList_toList]

theorem text?_eq_none (spelled : SpellAll pieces cs) :
    text? pieces = none ↔ ∀ named, ¬Names pieces named := by
  constructor
  · intro missing named names
    have found := (text?_eq_some spelled).mpr (by
      rwa [String.toList_ofList])
    rw [missing] at found
    cases found
  · intro unnamed
    cases found : text? pieces with
    | none => rfl
    | some text => exact absurd ((text?_eq_some spelled).mp found) (unnamed _)

end Piece

namespace Token

/-- How one token can be written. A quoted text names no text where it holds half of a pair of
units without the other half. -/
inductive Spells : Token → List Char → Prop
  | openObject : Spells openObject ['{']
  | closeObject : Spells closeObject ['}']
  | openArray : Spells openArray ['[']
  | closeArray : Spells closeArray [']']
  | colon : Spells colon [':']
  | comma : Spells comma [',']
  | null : Spells null ['n', 'u', 'l', 'l']
  | true : Spells (boolean Bool.true) ['t', 'r', 'u', 'e']
  | false : Spells (boolean Bool.false) ['f', 'a', 'l', 's', 'e']
  | number {n : Number} {cs : List Char} (spells : n.Spells cs) : Spells (number n) cs
  | string {pieces : List Piece} {cs : List Char} {text : String}
      (spelled : Piece.SpellAll pieces cs) (names : Piece.Names pieces text.toList) :
      Spells (string (some text)) ('"' :: (cs ++ ['"']))
  | half {pieces : List Piece} {cs : List Char} (spelled : Piece.SpellAll pieces cs)
      (unnamed : ∀ named, ¬Piece.Names pieces named) : Spells (string none) ('"' :: (cs ++ ['"']))

/-- How tokens can be written one after the other. Any space may stand before, between and after
them. -/
inductive SpellAll : List Token → List Char → Prop
  | nil {spaces : List Char} (blank : ∀ c ∈ spaces, c ∈ [' ', '\t', '\n', '\r']) :
      SpellAll [] spaces
  | cons {token : Token} {tokens : List Token} {spaces cs rest : List Char}
      (blank : ∀ c ∈ spaces, c ∈ [' ', '\t', '\n', '\r']) (spells : token.Spells cs)
      (following : SpellAll tokens rest) : SpellAll (token :: tokens) (spaces ++ (cs ++ rest))

variable {token : Token} {tokens : List Token} {cs rest : List Char}

theorem isSpace_iff {c : Char} : isSpace c = true ↔ c ∈ [' ', '\t', '\n', '\r'] := by
  simp [isSpace, or_assoc]

theorem scan_of_first? {c : Char} (visible : isSpace c = false)
    (found : first? (c :: cs) = some (token, rest)) :
    scan (c :: cs) = (scan rest).map (token :: ·) := by
  rw [scan]
  simp only [visible, Bool.false_eq_true, if_false]
  split
  · rename_i missing
    rw [found] at missing
    cases missing
  · rename_i found'
    rw [found] at found'
    cases found'
    rfl

theorem scan_spaces {spaces : List Char} (blank : ∀ c ∈ spaces, c ∈ [' ', '\t', '\n', '\r'])
    (cs : List Char) : scan (spaces ++ cs) = scan cs := by
  induction spaces with
  | nil => rfl
  | cons c spaces ih =>
    rw [List.forall_mem_cons] at blank
    rw [List.cons_append, scan, if_pos (isSpace_iff.mpr blank.1), ih blank.2]

theorem first?_number {c : Char} (begins : c = '-' ∨ Number.isDigit c = true) :
    isSpace c = false ∧
      first? (c :: cs) = (Number.read? (c :: cs)).map fun (n, rest) => (number n, rest) := by
  rcases begins with rfl | digit
  · exact ⟨by decide, rfl⟩
  · constructor
    · by_contra space
      simp only [Bool.not_eq_false, isSpace_iff, List.mem_cons, List.not_mem_nil, or_false] at space
      rcases space with rfl | rfl | rfl | rfl <;> exact absurd digit (by decide)
    · unfold first?
      split
      all_goals first
        | rfl
        | rename_i shape
          obtain ⟨rfl, -⟩ := List.cons.inj shape
          exact absurd digit (by decide)

/-- A spelled token is read if nothing goes on with it. Only a number could go on. -/
theorem scan_spelled (spells : token.Spells cs)
    (ends : ∀ n, token = .number n → Number.Ends rest) :
    scan (cs ++ rest) = (scan rest).map (token :: ·) := by
  cases spells with
  | openObject => exact scan_of_first? (by decide) rfl
  | closeObject => exact scan_of_first? (by decide) rfl
  | openArray => exact scan_of_first? (by decide) rfl
  | closeArray => exact scan_of_first? (by decide) rfl
  | colon => exact scan_of_first? (by decide) rfl
  | comma => exact scan_of_first? (by decide) rfl
  | null => exact scan_of_first? (by decide) rfl
  | true => exact scan_of_first? (by decide) rfl
  | false => exact scan_of_first? (by decide) rfl
  | @number n _ spells =>
    obtain ⟨c, tail, rfl, begins⟩ := spells.exists_cons
    obtain ⟨visible, found⟩ := @first?_number (tail ++ rest) c begins
    rw [← List.cons_append, Number.read?_spelled spells (ends n rfl)] at found
    exact scan_of_first? visible found
  | @string pieces cs text spelled names =>
    have read_eq := Piece.read_append spelled rest
    rw [List.cons_append, List.append_assoc, List.singleton_append]
    apply scan_of_first? (by decide)
    simp only [first?, read_eq, Option.map_some, (Piece.text?_eq_some spelled).mpr names]
  | @half pieces cs spelled unnamed =>
    have read_eq := Piece.read_append spelled rest
    rw [List.cons_append, List.append_assoc, List.singleton_append]
    apply scan_of_first? (by decide)
    simp only [first?, read_eq, Option.map_some, (Piece.text?_eq_none spelled).mpr unnamed]

theorem exists_spells (found : first? cs = some (token, rest)) :
    ∃ spelled, token.Spells spelled ∧ spelled ++ rest = cs := by
  unfold first? at found
  split at found
  case h_10 =>
    obtain ⟨⟨pieces, after⟩, read_eq, same⟩ := Option.map_eq_some_iff.mp found
    cases same
    obtain ⟨spelled, spells, rfl⟩ := Piece.exists_spellAll read_eq
    refine ⟨'"' :: (spelled ++ ['"']), ?_, by simp⟩
    cases named : Piece.text? pieces with
    | none => exact .half spells ((Piece.text?_eq_none spells).mp named)
    | some text => exact .string spells ((Piece.text?_eq_some spells).mp named)
  case h_11 =>
    obtain ⟨⟨n, after⟩, read_eq, same⟩ := Option.map_eq_some_iff.mp found
    cases same
    obtain ⟨spelled, spells, rfl⟩ := Number.exists_spells read_eq
    exact ⟨spelled, .number spells, rfl⟩
  case h_1 => cases found; exact ⟨_, .openObject, rfl⟩
  case h_2 => cases found; exact ⟨_, .closeObject, rfl⟩
  case h_3 => cases found; exact ⟨_, .openArray, rfl⟩
  case h_4 => cases found; exact ⟨_, .closeArray, rfl⟩
  case h_5 => cases found; exact ⟨_, .colon, rfl⟩
  case h_6 => cases found; exact ⟨_, .comma, rfl⟩
  case h_7 => cases found; exact ⟨_, .null, rfl⟩
  case h_8 => cases found; exact ⟨_, .true, rfl⟩
  case h_9 => cases found; exact ⟨_, .false, rfl⟩

theorem SpellAll.space {c : Char} (blank : c ∈ [' ', '\t', '\n', '\r'])
    (spelled : SpellAll tokens cs) : SpellAll tokens (c :: cs) := by
  cases spelled with
  | nil others => exact .nil (List.forall_mem_cons.mpr ⟨blank, others⟩)
  | cons others spells following =>
    exact .cons (List.forall_mem_cons.mpr ⟨blank, others⟩) spells following

theorem ends_spaces {spaces : List Char} (blank : ∀ c ∈ spaces, c ∈ [' ', '\t', '\n', '\r'])
    (ends : Number.Ends rest) : Number.Ends (spaces ++ rest) := by
  have tested : ∀ c ∈ [' ', '\t', '\n', '\r'],
      Number.isDigit c = Bool.false ∧ c ≠ '.' ∧ c ≠ 'e' ∧ c ≠ 'E' := by
    simp [Number.isDigit]
  cases spaces with
  | nil => exact ends
  | cons c spaces => exact Number.ends_cons (tested c (blank c (List.mem_cons_self ..))) _

/-- A number ends where a comma or the end of a container follows, or nothing but space. -/
theorem SpellAll.ends (spelled : SpellAll tokens cs)
    (first : ∀ token, tokens.head? = some token →
      token = comma ∨ token = closeArray ∨ token = closeObject) : Number.Ends cs := by
  cases spelled with
  | nil blank =>
    rw [← List.append_nil cs]
    exact ends_spaces blank (by simp [Number.Ends])
  | cons blank spells _ =>
    apply ends_spaces blank
    rcases first _ rfl with rfl | rfl | rfl
    all_goals
      cases spells
      exact Number.ends_cons (by decide) _

/-- Whatever has been scanned is spelled by the text. -/
theorem spellAll_of_scan (scanned : scan cs = some tokens) : SpellAll tokens cs := by
  fun_induction scan cs generalizing tokens with
  | case1 =>
    cases scanned
    exact .nil (by simp)
  | case2 c cs space ih => exact (ih scanned).space (isSpace_iff.mp space)
  | case3 => cases scanned
  | case4 c cs visible token rest found ih =>
    obtain ⟨others, following, rfl⟩ := Option.map_eq_some_iff.mp scanned
    obtain ⟨spelled, spells, shape⟩ := exists_spells found
    rw [← shape]
    exact .cons (List.forall_mem_nil _) spells (ih following)

end Token

end ServiceRecords.Json
