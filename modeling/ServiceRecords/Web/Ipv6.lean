import ServiceRecords.Web.Ipv4

set_option autoImplicit false

/-!
IPv6 addresses: eight groups of up to four hexadecimal digits, of which the last two may be
written as four decimal numbers, and of which one or more may be left out between two colons.
-/

namespace ServiceRecords.Web.Ipv6

def isGroup (group : List Char) : Bool :=
  !group.isEmpty && group.length ≤ 4 && (Text.number? 16 group).isSome

/-- Whether a text is a number below 256 without idle zeros. -/
def isByte (digits : List Char) : Bool :=
  match Text.number? 10 digits with
  | some number =>
    !digits.isEmpty && number < 256 && (digits.length == 1 || digits.head? != some '0')
  | none => false

/-- Whether a text is four decimal numbers, which fill two groups. -/
def isQuad (text : List Char) : Bool :=
  let bytes := text.splitOn '.'
  bytes.length == 4 && bytes.all isByte

/-- How many groups the texts between colons fill. -/
def width? (quadAllowed : Bool) : List (List Char) → Option Nat
  | [] => some 0
  | [last] =>
    if isGroup last then some 1 else if quadAllowed && isQuad last then some 2 else none
  | group :: others => if isGroup group then (width? quadAllowed others).map (· + 1) else none

/-- The parts before and after the first double colon. -/
def splitAtGap? : List Char → Option (List Char × List Char)
  | ':' :: ':' :: rest => some ([], rest)
  | c :: rest => (splitAtGap? rest).map fun (before, after) => (c :: before, after)
  | [] => none

def groups (text : List Char) : List (List Char) :=
  if text.isEmpty then [] else text.splitOn ':'

def isAddress (text : List Char) : Bool :=
  match splitAtGap? text with
  | none => width? true (groups text) == some 8
  | some (before, after) =>
    match width? false (groups before), width? true (groups after) with
    | some left, some right => left + right ≤ 7
    | _, _ => false

end ServiceRecords.Web.Ipv6
