import Std.Data.ExtTreeSet
import ServiceRecords.Queue.Backoff
import ServiceRecords.Queue.Failures

set_option autoImplicit false

/-!
The work queue. A key that waits absorbs further additions; a key that is checked out is marked
and waits again once it is released. So no key is checked out twice at a time, and no addition
is lost. `add`, `take?` and `release` are the steps; the failures of a key are counted beside.
Times are milliseconds since the start of a run.
-/

namespace ServiceRecords

structure WorkQueue (κ : Type) [Ord κ] where
  /-- The keys that can be taken, first in front -/
  waiting : List κ
  /-- The keys that need work, with the time of the first addition since they were last taken -/
  dirty : Std.ExtTreeMap κ Nat
  /-- The keys that are checked out -/
  taken : Std.ExtTreeSet κ
  failures : Failures κ
  isShutDown : Bool

/-- A key as it is checked out. -/
structure WorkItem (κ : Type) where
  key : κ
  /-- When the key was first added since it was last taken -/
  added : Nat
  /-- The failures of the key since it was last forgotten -/
  attempts : Nat
  deriving DecidableEq, Repr

namespace WorkQueue

variable {κ : Type} [Ord κ] [Std.TransOrd κ]

def empty : WorkQueue κ := ⟨[], ∅, ∅, .empty, false⟩

def add (queue : WorkQueue κ) (now : Nat) (key : κ) : WorkQueue κ :=
  if queue.isShutDown || queue.dirty.contains key then queue
  else
    let dirty := queue.dirty.insert key now
    if queue.taken.contains key then { queue with dirty }
    else { queue with dirty, waiting := queue.waiting ++ [key] }

/-- Checks out the first waiting key. -/
def take? (queue : WorkQueue κ) (now : Nat) : Option (WorkItem κ × WorkQueue κ) :=
  match queue.waiting with
  | [] => none
  | key :: waiting =>
    let item := ⟨key, queue.dirty[key]?.getD now, queue.failures.count key⟩
    some (item,
      { queue with waiting, dirty := queue.dirty.erase key, taken := queue.taken.insert key })

/-- Returns a key; it waits again if it was added while it was checked out. -/
def release (queue : WorkQueue κ) (key : κ) : WorkQueue κ :=
  let taken := queue.taken.erase key
  if queue.dirty.contains key then { queue with taken, waiting := queue.waiting ++ [key] }
  else { queue with taken }

/-- Whether a worker that asks for a key is told that there will be none. -/
def isDrained (queue : WorkQueue κ) : Bool := queue.isShutDown && queue.waiting.isEmpty

/-- Adds a key after a delay: at once if there is none, and otherwise as soon as the milliseconds
have passed that are given back. -/
def addAfter (queue : WorkQueue κ) (now : Nat) (delay : Duration) (key : κ) :
    Option Nat × WorkQueue κ :=
  if delay.isZero then (none, queue.add now key) else (some delay.milliseconds, queue)

/-- Counts a failure of the key and adds it after the delay for its failures before. Without a
delay neither happens, and after the queue was shut down there is nothing to be done. -/
def retry (queue : WorkQueue κ) (now : Nat) (delay : Nat → Except BackoffError Duration)
    (key : κ) : Except BackoffError (Option Nat × WorkQueue κ) :=
  if queue.isShutDown then .ok (none, queue)
  else (delay (queue.failures.count key)).map fun delay =>
    { queue with failures := queue.failures.increment key }.addAfter now delay key

def forget (queue : WorkQueue κ) (key : κ) : WorkQueue κ :=
  { queue with failures := queue.failures.forget key }

def attempts (queue : WorkQueue κ) (key : κ) : Nat := queue.failures.count key

/-- From now on nothing is added; what waits can still be taken. -/
def shutDown (queue : WorkQueue κ) : WorkQueue κ := { queue with isShutDown := true }

/-- Takes every waiting key and returns it at once; the keys in order. -/
def drain (queue : WorkQueue κ) (now : Nat) : List κ × WorkQueue κ :=
  queue.waiting.foldl (fun (keys, queue) _ =>
    match queue.take? now with
    | some (item, queue) => (keys ++ [item.key], queue.release item.key)
    | none => (keys, queue)) ([], queue)

def size (queue : WorkQueue κ) : Nat := queue.waiting.length

end WorkQueue

end ServiceRecords
