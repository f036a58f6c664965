import ServiceRecords.Simulation.Timeline
import ServiceRecords.Worker.Verdict

set_option autoImplicit false

/-!
A pool of workers on one queue in virtual time. Idle workers take keys in the order in which they
wait; a worker is busy with a key until the attempt ends, and a worker whose attempt breaks down
never comes back. What an attempt does to its surroundings is left to the one who runs the pool.
-/

namespace ServiceRecords.Simulation

/-- How the attempt of a key goes, and how many milliseconds it takes. -/
inductive Course where
  | ends (hold : Nat) (result : Except ReconcileError Outcome)
  | breaksDown (hold : Nat)

/-- What a pool waits for. -/
inductive PoolEvent where
  | addition (key : Key)
  | finish (key : Key) (started : Nat) (result : Except ReconcileError Outcome)
  | breakdown

/-- A pool at work on surroundings `ω`. -/
structure Pool (ω : Type) where
  queue : WorkQueue Key := .empty
  idle : Nat
  busy : Nat := 0
  metrics : Metrics := {}
  /-- The attempts, last first, with the time at which they began -/
  attempts : List (Nat × Key) := []
  surroundings : ω

/-- How retries are decided and delayed. -/
structure RetryPolicy where
  ceiling : RetryCeiling := .bounded 10
  delay : Nat → Except BackoffError Duration

namespace Pool

variable {ω : Type}

/-- A pool of at least one worker. -/
def create (workers : Nat) (surroundings : ω) : Pool ω := { idle := max 1 workers, surroundings }

/-- Whether every worker has left. -/
def hasStopped (pool : Pool ω) : Bool := pool.idle == 0 && pool.busy == 0

def add (pool : Pool ω) (now : Nat) (key : Key) : Pool ω :=
  { pool with queue := pool.queue.add now key }

/-- The worker reports the result of an attempt and returns the key. A worker that finds no delay
for a retry never comes back, and neither does the key. -/
def finish (policy : RetryPolicy) (key : Key) (started : Nat)
    (result : Except ReconcileError Outcome) : Happening (Pool ω) PoolEvent :=
  fun now pool =>
    let verdict := Verdict.ofResult policy.ceiling (pool.queue.attempts key) result
    let metrics := verdict.record (.ofMilliseconds (now - started)) pool.metrics
    let pool := { pool with metrics, busy := pool.busy - 1 }
    match verdict.settle policy.delay now key pool.queue with
    | .ok (delay, queue) =>
      ({ pool with queue := queue.release key, idle := pool.idle + 1 },
        delay.toList.map (·, .addition key))
    | .error _ => (pool, [])

/-- An idle worker takes the first key and begins an attempt. -/
def begin? (attempt : Key → ω → Course × ω) (policy : RetryPolicy) (now : Nat)
    (pool : Pool ω) : Option (Pool ω × List (Nat × PoolEvent)) :=
  if pool.idle = 0 then none
  else
    (pool.queue.take? now).map fun (item, queue) =>
      let (course, surroundings) := attempt item.key pool.surroundings
      let pool := { pool with
        queue, surroundings, idle := pool.idle - 1, busy := pool.busy + 1,
        metrics := pool.metrics.recordQueueWait (.ofMilliseconds (now - item.added)),
        attempts := (now, item.key) :: pool.attempts }
      match course with
      | .ends 0 result => pool.finish policy item.key now result now
      | .ends hold result => (pool, [(hold, .finish item.key now result)])
      | .breaksDown 0 => ({ pool with busy := pool.busy - 1 }, [])
      | .breaksDown hold => (pool, [(hold, .breakdown)])

/-- Idle workers take keys, at most `limit` of them; they leave once there will be no more. -/
def takeKeys (attempt : Key → ω → Course × ω) (policy : RetryPolicy) (limit : Nat) :
    Happening (Pool ω) PoolEvent :=
  fun now pool =>
    match limit with
    | 0 => (pool, [])
    | limit + 1 =>
      match pool.begin? attempt policy now with
      | none => (if pool.queue.isDrained then { pool with idle := 0 } else pool, [])
      | some (pool, planned) =>
        let (pool, others) := takeKeys attempt policy limit now pool
        (pool, planned ++ others)

/-- A key that is retried without delay for ever would be taken without end at one time. -/
def takesAtOnce : Nat := 1000000

/-- Keys are added and attempts end when it is time, and idle workers take what they can. -/
def behaviour (attempt : Key → ω → Course × ω) (policy : RetryPolicy) :
    Behaviour (Pool ω) PoolEvent where
  occur
    | .addition key => fun now pool => (pool.add now key, [])
    | .finish key started result => finish policy key started result
    | .breakdown => fun _ pool => ({ pool with busy := pool.busy - 1 }, [])
  settle := fun now pool =>
    let (pool, planned) := takeKeys attempt policy takesAtOnce now pool
    ({ pool with metrics := pool.metrics.recordQueueDepth pool.queue.size }, planned)

/-- Nothing is added any more, and the workers leave when nothing is left to do. A pool that has
stopped pays no attention. -/
def cancel (pool : Pool ω) : Pool ω :=
  if pool.hasStopped then pool else { pool with queue := pool.queue.shutDown }

end Pool

/-- Prepared attempts: each key goes through its own in order, and the last one is repeated. -/
structure Script where
  courses : Std.ExtTreeMap Key (List Course)

namespace Script

/-- The next attempt of a key; a key without prepared attempts is unchanged at once. -/
def attempt (key : Key) (script : Script) : Course × Script :=
  match script.courses[key]? with
  | none => (.ends 0 (.ok .unchanged), script)
  | some [] => (.ends 0 (.ok .unchanged), script)
  | some [course] => (course, script)
  | some (course :: rest) => (course, ⟨script.courses.insert key rest⟩)

end Script

end ServiceRecords.Simulation
