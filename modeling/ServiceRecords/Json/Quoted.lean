import ServiceRecords.Text.Digits

set_option autoImplicit false

/-!
Quoted texts of JSON. Between the quotes stand characters and escapes; an escape of four
hexadecimal digits names a 16-bit unit, and two such units can name one character together.
`Piece.read` takes the inside of a quoted text apart, `Piece.text?` says which text the
pieces name, and `quote` writes a text with the fewest escapes.
-/

namespace ServiceRecords.Json

/-- One element of a quoted text. -/
inductive Piece where
  /-- A character that stands for itself or is named by a one-letter escape. -/
  | character (c : Char)
  /-- A unit named by four hexadecimal digits. -/
  | unit (code : Nat)
  deriving DecidableEq

namespace Piece

/-- The character that a one-letter escape names. -/
def escaped? : Char → Option Char
  | '"' => some '"'
  | '\\' => some '\\'
  | '/' => some '/'
  | 'b' => some '\x08'
  | 'f' => some '\x0c'
  | 'n' => some '\n'
  | 'r' => some '\r'
  | 't' => some '\t'
  | _ => none

/-- The pieces up to the closing quote, and what follows it. -/
def read : List Char → Option (List Piece × List Char)
  | [] => none
  | '"' :: rest => some ([], rest)
  | '\\' :: 'u' :: a :: b :: c :: d :: rest =>
    match Text.number? 16 [a, b, c, d], read rest with
    | some code, some (pieces, rest) => some (.unit code :: pieces, rest)
    | _, _ => none
  | '\\' :: letter :: rest =>
    match escaped? letter, read rest with
    | some c, some (pieces, rest) => some (.character c :: pieces, rest)
    | _, _ => none
  | c :: rest =>
    if c = '\\' ∨ c.toNat < 0x20 then none
    else (read rest).map fun (pieces, rest) => (.character c :: pieces, rest)

theorem read_shorter {cs rest : List Char} {pieces : List Piece}
    (h : read cs = some (pieces, rest)) : rest.length < cs.length := by
  fun_induction read cs generalizing pieces rest <;>
    simp only [Option.some.injEq, Prod.mk.injEq, reduceCtorEq, Option.map_eq_some_iff,
      Prod.exists, List.length_cons] at h ⊢ <;>
    grind

/-- The characters that the pieces name; none if a unit is half of a pair without its partner. -/
def characters? : List Piece → Option (List Char)
  | [] => some []
  | .character c :: rest => (characters? rest).map (c :: ·)
  | .unit high :: .unit low :: rest =>
    if 0xD800 ≤ high ∧ high < 0xDC00 then
      if 0xDC00 ≤ low ∧ low < 0xE000 then
        (characters? rest).map
          (Char.ofNat (0x10000 + (high - 0xD800) * 0x400 + (low - 0xDC00)) :: ·)
      else none
    else if 0xDC00 ≤ high ∧ high < 0xE000 then none
    else (characters? (.unit low :: rest)).map (Char.ofNat high :: ·)
  | .unit code :: rest =>
    if 0xD800 ≤ code ∧ code < 0xE000 then none
    else (characters? rest).map (Char.ofNat code :: ·)

def text? (pieces : List Piece) : Option String :=
  (characters? pieces).map .ofList

end Piece

def hexDigit (n : Nat) : Char := Nat.digitChar n

/-- How a character is written between quotes. -/
def escape (c : Char) : List Char :=
  if c = '"' then ['\\', '"']
  else if c = '\\' then ['\\', '\\']
  else if c = '\x08' then ['\\', 'b']
  else if c = '\x0c' then ['\\', 'f']
  else if c = '\n' then ['\\', 'n']
  else if c = '\r' then ['\\', 'r']
  else if c = '\t' then ['\\', 't']
  else if c.toNat < 0x20 then
    ['\\', 'u', '0', '0', hexDigit (c.toNat / 16), hexDigit (c.toNat % 16)]
  else [c]

/-- A quoted text; a text that is none is written as an escape that names no character. -/
def quote : Option String → List Char
  | some text => '"' :: text.toList.flatMap escape ++ ['"']
  | none => ['"', '\\', 'u', 'd', '8', '0', '0', '"']

end ServiceRecords.Json
