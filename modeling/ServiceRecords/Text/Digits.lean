set_option autoImplicit false

/-!
Numbers written with digits, in any base up to sixteen.
-/

namespace ServiceRecords.Text

def digitValue? (c : Char) : Option Nat :=
  if '0' ≤ c ∧ c ≤ '9' then some (c.toNat - '0'.toNat)
  else if 'a' ≤ c ∧ c ≤ 'f' then some (c.toNat - 'a'.toNat + 10)
  else if 'A' ≤ c ∧ c ≤ 'F' then some (c.toNat - 'A'.toNat + 10)
  else none

/-- The number that digits of a base stand for; zero if there is none. -/
def number? (base : Nat) (digits : List Char) : Option Nat :=
  digits.foldl (fun number c => do
    let digit ← digitValue? c
    if digit < base then return (← number) * base + digit else none) (some 0)

end ServiceRecords.Text
