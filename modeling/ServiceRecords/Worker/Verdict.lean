import ServiceRecords.Metrics
import ServiceRecords.Queue.WorkQueue
import ServiceRecords.Reconcile.Reconcile

set_option autoImplicit false

/-!
What a worker makes of a finished attempt. A key that succeeded, that can never succeed, or that
has used up its retries starts afresh; any other key is retried after a delay.
-/

namespace ServiceRecords

inductive Verdict where
  | succeeded (outcome : Outcome)
  /-- The key cannot succeed as it is. -/
  | rejected (category : String)
  /-- The key is given up after this many attempts. -/
  | exhausted (category : String) (attempt : Nat)
  /-- The key gets another attempt after this many. -/
  | retried (category : String) (attempt : Nat)
  deriving DecidableEq, Repr

namespace Verdict

/-- The verdict on an attempt of a key that has been retried `retries` times before. -/
def ofResult (ceiling : RetryCeiling) (retries : Nat) :
    Except ReconcileError Outcome → Verdict
  | .ok outcome => .succeeded outcome
  | .error error =>
    if !error.isRetryable then .rejected error.category
    else if ceiling.allows retries then .retried error.category (retries + 1)
    else .exhausted error.category (retries + 1)

/-- The reason for which a key is given up, as it is counted. -/
def dropReason? : Verdict → Option String
  | rejected _ => some "permanent_error"
  | exhausted .. => some "retries_exhausted"
  | _ => none

/-- The number of attempts that failed in a row. -/
def attempt? : Verdict → Option Nat
  | exhausted _ attempt => some attempt
  | retried _ attempt => some attempt
  | _ => none

/-- Counts the attempt and what becomes of the key. -/
def record (verdict : Verdict) (duration : Duration) (metrics : Metrics) : Metrics :=
  let counted := match verdict with
    | succeeded outcome => metrics.recordReconciliation outcome.name duration
    | rejected category => metrics.recordFailure category duration
    | exhausted category _ => metrics.recordFailure category duration
    | retried category _ => (metrics.recordFailure category duration).recordRequeue category
  match verdict.dropReason? with
  | some reason => counted.recordDroppedKey reason
  | none => counted

/-- Carries out the verdict on a key that is still checked out. If the key is to be added later,
the milliseconds until then are given back. A retry fails if there is no delay for it. -/
def settle {κ : Type} [Ord κ] [Std.TransOrd κ] (verdict : Verdict)
    (delay : Nat → Except BackoffError Duration) (now : Nat) (key : κ) (queue : WorkQueue κ) :
    Except BackoffError (Option Nat × WorkQueue κ) :=
  match verdict with
  | retried .. => queue.retry now delay key
  | _ => .ok (none, queue.forget key)

end Verdict

end ServiceRecords
