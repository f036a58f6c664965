import ServiceRecords.Text.Digits

set_option autoImplicit false

/-!
Host names that are read as IPv4 addresses: one to four numbers, decimal, octal or hexadecimal,
of which the last fills all the bytes that the others leave.
-/

namespace ServiceRecords.Web

namespace Ipv4

/-- The number that a part of an address stands for. -/
def part? : List Char → Option Nat
  | [] => none
  | '0' :: 'x' :: digits => Text.number? 16 digits
  | '0' :: 'X' :: digits => Text.number? 16 digits
  | '0' :: c :: digits => Text.number? 8 (c :: digits)
  | digits => Text.number? 10 digits

/-- The parts of a host name between dots, without an empty part after a final dot. -/
def parts (host : List Char) : List (List Char) :=
  let parts := host.splitOn '.'
  if parts.length > 1 ∧ parts.getLast? = some [] then parts.dropLast else parts

/-- Whether a host name is to be read as an address. -/
def isMeant (host : List Char) : Bool :=
  match (parts host).getLast? with
  | some part => !part.isEmpty && part.all Char.isDigit || (part? part).isSome
  | none => false

/-- Whether numbers make up an address. -/
def fit (numbers : List Nat) : Bool :=
  match numbers.reverse with
  | [] => false
  | last :: others =>
    others.length < 4 && others.all (· < 256) && last < Nat.pow 256 (4 - others.length)

def isAddress (host : List Char) : Bool :=
  match (parts host).mapM part? with
  | some numbers => fit numbers
  | none => false

end Ipv4

end ServiceRecords.Web
