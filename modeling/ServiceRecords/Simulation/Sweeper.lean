import ServiceRecords.Reconcile.Surroundings
import ServiceRecords.Simulation.Watcher

set_option autoImplicit false

/-!
A sweeper waits until the observer has seen a complete list of services, sweeps then, and sweeps
again after every period. It ends when it is told to, when no list can ever be complete, and
without a sweep if the period is no time at all.
-/

namespace ServiceRecords.Simulation

structure Sweeper where
  surroundings : Surroundings := {}
  queue : WorkQueue Key := .empty
  /-- It is idle until it has swept for the first time. -/
  stage : Stage := .idle
  /-- Whether the observer is still told of services -/
  isInformed : Bool := true

/-- The one thing a sweeper waits for. -/
inductive SweeperEvent where
  | sweep

namespace Sweeper

/-- Sweeps and queues the keys that it found; a failed sweep has no effect. -/
def sweep (layout : Layout) (now : Nat) (sweeper : Sweeper) : Sweeper :=
  let (_, surroundings) := sweeper.surroundings.sweep layout
  let (keys, surroundings) := surroundings.takeRequested
  { sweeper with surroundings, queue := keys.foldl (·.add now ·) sweeper.queue }

def behaviour (layout : Layout) (period : Nat) : Behaviour Sweeper SweeperEvent where
  occur
    | .sweep => fun now sweeper =>
      if sweeper.stage = .running then (sweeper.sweep layout now, [(period, .sweep)])
      else (sweeper, [])
  settle := fun now sweeper =>
    if sweeper.stage ≠ .idle then (sweeper, [])
    else if sweeper.surroundings.observer.isReady then
      if period = 0 then ({ sweeper with stage := .stopped }, [])
      else ({ sweeper with stage := .running }.sweep layout now, [(period, .sweep)])
    else if sweeper.isInformed then (sweeper, [])
    else ({ sweeper with stage := .stopped }, [])

def cancel (sweeper : Sweeper) : Sweeper := { sweeper with stage := .stopped }

/-- The observer is told of services no more. -/
def loseInformation (sweeper : Sweeper) : Sweeper := { sweeper with isInformed := false }

/-- Applies an event, if the observer is still told of any; there is no result if the service
has no name. -/
def inform? (sweeper : Sweeper) (event : WatchEvent) : Option Sweeper :=
  if !sweeper.isInformed then some sweeper
  else
    match sweeper.surroundings.observer.apply event with
    | (some _, observer) =>
      some { sweeper with surroundings := { sweeper.surroundings with observer } }
    | (none, _) => none

def updateMemory (sweeper : Sweeper) (change : Store.Memory → Store.Memory) : Sweeper :=
  { sweeper with
    surroundings :=
      { sweeper.surroundings with memory := change sweeper.surroundings.memory } }

end Sweeper

end ServiceRecords.Simulation
