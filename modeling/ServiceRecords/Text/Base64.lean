set_option autoImplicit false

/-!
Bytes in base 64: four characters for three bytes, with padding where there are fewer at the end.
Only the text that would be written for the bytes is read.
-/

namespace ServiceRecords.Text.Base64

def digits : List Char :=
  "ABCDEFGHIJKLMNOPQRSTUVWXYZabcdefghijklmnopqrstuvwxyz0123456789+/".toList

/-- The value of a digit. -/
def digit? (c : Char) : Option Nat := digits.idxOf? c

/-- The bytes of a text. The bits that the last digit has too many are zero. -/
def decode? : List Char → Option (List UInt8)
  | [] => some []
  | [a, b, '=', '='] => do
    let code := 64 * (← digit? a) + (← digit? b)
    if code % 16 = 0 then some [.ofNat (code / 16)] else none
  | [a, b, c, '='] => do
    let code := 64 * (64 * (← digit? a) + (← digit? b)) + (← digit? c)
    if code % 4 = 0 then some [.ofNat (code / 1024), .ofNat (code / 4 % 256)] else none
  | a :: b :: c :: d :: rest => do
    let code := 64 * (64 * (64 * (← digit? a) + (← digit? b)) + (← digit? c)) + (← digit? d)
    return .ofNat (code / 65536) :: .ofNat (code / 256 % 256) :: .ofNat (code % 256) ::
      (← decode? rest)
  | _ => none

end ServiceRecords.Text.Base64
