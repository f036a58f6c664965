set_option autoImplicit false

/-!
Durations in whole nanoseconds, and their conversion from and to seconds as binary fractions.
-/

namespace ServiceRecords

structure Duration where
  nanoseconds : Nat
  deriving DecidableEq, Repr

namespace Duration

def ofSeconds (n : Nat) : Duration := ⟨n * 1000000000⟩

def ofMilliseconds (n : Nat) : Duration := ⟨n * 1000000⟩

/-- The milliseconds after which the duration has surely passed. -/
def milliseconds (d : Duration) : Nat := (d.nanoseconds + 999999) / 1000000

def isZero (d : Duration) : Bool := d.nanoseconds == 0

/-- The whole seconds plus the rest divided by 10^9, each step rounded. -/
def seconds (d : Duration) : Float :=
  Float.ofNat (d.nanoseconds / 1000000000) +
    Float.ofNat (d.nanoseconds % 1000000000) / 1000000000.0

/-- The quotient rounded to the nearest whole number, a half to the even neighbour. -/
def roundDiv (numerator denominator : Nat) : Nat :=
  let quotient := numerator / denominator
  let twice := 2 * (numerator % denominator)
  if twice < denominator then quotient
  else if twice > denominator then quotient + 1
  else if quotient % 2 = 0 then quotient else quotient + 1

/-- The nearest duration to a number of seconds that is neither negative nor 2^64 or more. -/
def ofFloat? (seconds : Float) : Option Duration :=
  let bits := seconds.toBits.toNat
  let biased := bits / Nat.pow 2 52 % Nat.pow 2 11
  let fraction := bits % Nat.pow 2 52
  if bits / Nat.pow 2 63 = 1 ∧ bits % Nat.pow 2 63 ≠ 0 then none
  else if biased ≥ 1023 + 64 then none
  else
    let mantissa := if biased = 0 then fraction else fraction + Nat.pow 2 52
    let exponent := if biased = 0 then 1 else biased
    some ⟨roundDiv (mantissa * Nat.pow 2 exponent * 1000000000) (Nat.pow 2 1075)⟩

end Duration

end ServiceRecords
