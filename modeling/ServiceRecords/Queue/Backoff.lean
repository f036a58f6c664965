import ServiceRecords.Duration

set_option autoImplicit false

/-!
Exponential backoff: the delay before a retry grows by a factor with every failure so far, up to
a longest delay, and may be spread around that value.
-/

namespace ServiceRecords

structure Backoff where
  /-- The delay after the first failure -/
  initial : Duration := .ofMilliseconds 100
  longest : Duration := .ofSeconds 30
  multiplier : Float := 2.0
  /-- How far a delay may be off, as a part of the delay -/
  spread : Float := 0.1

/-- Why there is no delay. -/
inductive BackoffError where
  /-- The number of seconds is not a duration. -/
  | unrepresentable
  /-- The least delay exceeds the greatest. -/
  | emptyRange
  /-- The least and the greatest delay are infinitely far apart. -/
  | unboundedRange
  deriving DecidableEq, Repr

namespace BackoffError

def message : BackoffError → String
  | unrepresentable =>
    "cannot convert float seconds to Duration: value is either too big or NaN"
  | emptyRange => "cannot sample empty range"
  | unboundedRange => "called `Result::unwrap()` on an `Err` value: NonFinite"

end BackoffError

namespace Backoff

/-- Multiplies squares of `base` into `product`, one for each binary digit of the exponent. -/
def powerInto (product base : Float) (exponent : Nat) : Float :=
  let product := if exponent % 2 = 1 then product * base else product
  if exponent / 2 = 0 then product else powerInto product (base * base) (exponent / 2)
termination_by exponent
decreasing_by omega

def power (base : Float) (exponent : Nat) : Float := powerInto 1.0 base exponent

/-- The greatest number of failures that still makes a difference. -/
def maxExponent : Nat := Nat.pow 2 31 - 1

/-- The lesser of two numbers; the second if the first is none. -/
def least (a b : Float) : Float := if a ≤ b then a else b

def greatest (a b : Float) : Float := if a ≥ b then a else b

/-- The delay after `failures` earlier failures, before it is spread. -/
def base (backoff : Backoff) (failures : Nat) : Except BackoffError Duration :=
  let grown := backoff.initial.seconds * power backoff.multiplier (min failures maxExponent)
  let capped := least grown backoff.longest.seconds
  match Duration.ofFloat? (greatest capped 0.0) with
  | some delay => .ok delay
  | none => .error .unrepresentable

/-- The interval in seconds from which a delay is drawn. -/
def range (backoff : Backoff) (base : Duration) : Except BackoffError (Float × Float) :=
  let seconds := base.seconds
  let spread := seconds * backoff.spread
  let low := seconds - spread
  let high := seconds + spread
  if !(low ≤ high) then .error .emptyRange
  else if (high - low).isFinite then .ok (low, high)
  else .error .unboundedRange

/-- The delay at the place `draw`, between 0 and 1, of the interval around the base delay. -/
def spreadOut (backoff : Backoff) (draw : Float) (base : Duration) :
    Except BackoffError Duration := do
  if backoff.spread == 0.0 then return base
  let (low, high) ← backoff.range base
  match Duration.ofFloat? (greatest (low + (high - low) * draw) 0.0) with
  | some delay => return delay
  | none => throw .unrepresentable

/-- The delay after `failures` earlier failures, drawn from the middle of its interval. -/
def delay (backoff : Backoff) (failures : Nat) : Except BackoffError Duration := do
  backoff.spreadOut 0.5 (← backoff.base failures)

end Backoff

/-- How often a failing key is retried. -/
inductive RetryCeiling where
  | bounded (retries : UInt32)
  | unbounded
  deriving DecidableEq, Repr

namespace RetryCeiling

/-- Whether a key that has been retried `retries` times may be retried again. -/
def allows : RetryCeiling → Nat → Bool
  | bounded limit, retries => retries < limit.toNat
  | unbounded, _ => true

end RetryCeiling

end ServiceRecords
