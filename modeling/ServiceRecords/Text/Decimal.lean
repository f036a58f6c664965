set_option autoImplicit false

/-!
Decimal numbers with a power of ten, as binary fractions.
-/

namespace ServiceRecords.Text.Decimal

/-- The binary fraction that is nearest to a number with a power of ten. A thousand places are
more than there can be before or after the point: what is larger is not finite, and what is
smaller is zero. -/
def nearest (mantissa : Nat) (power : Int) : Float :=
  if mantissa = 0 ∨ power + (Nat.toDigits 10 mantissa).length < -1000 then 0
  else if 1000 < power then 1 / 0
  else .ofScientific mantissa (power < 0) power.natAbs

end ServiceRecords.Text.Decimal
