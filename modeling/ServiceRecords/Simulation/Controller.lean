import ServiceRecords.Simulation.Pool
import ServiceRecords.Simulation.Sweeper

set_option autoImplicit false

/-!
The whole controller against a cluster and a store in memory: notices are forwarded to the queue,
a pool of workers reconciles the queued keys, and sweeps queue the keys that left entries behind.
When the watcher stops, the rest stops as soon as the queue is drained.
-/

namespace ServiceRecords.Simulation

structure ControllerSettings where
  layout : Layout
  workers : Nat := 1
  policy : RetryPolicy
  /-- The milliseconds between two resyncs and between two sweeps -/
  period : Nat

structure Controller where
  watcher : Watcher := {}
  pool : Pool Surroundings
  /-- Whether the first sweep has begun -/
  isSweeping : Bool := false

inductive ControllerEvent where
  | watcher (event : WatcherEvent)
  | pool (event : PoolEvent)
  | sweep

/-- How a controller ends. -/
inductive ControllerEnd where
  | cancelled
  | watcherLost
  deriving DecidableEq, Repr

namespace ControllerEnd

/-- What is wrong with the end. -/
def message? : ControllerEnd → Option String
  | cancelled => none
  | watcherLost => some "RpcService watcher exited unexpectedly"

end ControllerEnd

namespace Controller

def create (settings : ControllerSettings) (scope : Option String) : Controller where
  watcher := { cluster := { scope } }
  pool := .create settings.workers {}

def updateSurroundings (controller : Controller) (change : Surroundings → Surroundings) :
    Controller :=
  { controller with
    pool := { controller.pool with surroundings := change controller.pool.surroundings } }

def updateMemory (controller : Controller) (change : Store.Memory → Store.Memory) : Controller :=
  controller.updateSurroundings fun surroundings =>
    { surroundings with memory := change surroundings.memory }

def updateWatcher (controller : Controller) (change : Watcher → Watcher) : Controller :=
  { controller with watcher := change controller.watcher }

/-- What happens to the watcher and its observer, as a part of the controller. -/
def watch (happening : Happening Watcher.Working WatcherEvent) :
    Happening Controller ControllerEvent :=
  fun now controller =>
    let surroundings := controller.pool.surroundings
    let ((watcher, observer), planned) := happening now (controller.watcher, surroundings.observer)
    ({ controller.updateSurroundings fun _ => { surroundings with observer } with watcher },
      planned.map fun (delay, event) => (delay, .watcher event))

/-- What happens to the pool, as a part of the controller. -/
def work (happening : Happening (Pool Surroundings) PoolEvent) :
    Happening Controller ControllerEvent :=
  fun now controller =>
    let (pool, planned) := happening now controller.pool
    ({ controller with pool }, planned.map fun (delay, event) => (delay, .pool event))

def addAll (controller : Controller) (now : Nat) (keys : List Key) : Controller :=
  { controller with pool := keys.foldl (·.add now ·) controller.pool }

/-- Sweeps, and will sweep again after a period. -/
def sweep (settings : ControllerSettings) : Happening Controller ControllerEvent :=
  fun now controller =>
    if controller.watcher.stage = .running then
      let (_, surroundings) := controller.pool.surroundings.sweep settings.layout
      let (keys, surroundings) := surroundings.takeRequested
      let controller := controller.updateSurroundings fun _ => surroundings
      ({ controller.addAll now keys with isSweeping := true }, [(settings.period, .sweep)])
    else (controller, [])

/-- The first sweep follows the first complete list. -/
def sweepFirst (settings : ControllerSettings) : Happening Controller ControllerEvent :=
  fun now controller =>
    if controller.pool.surroundings.observer.isReady && !controller.isSweeping then
      sweep settings now controller
    else (controller, [])

/-- Queues the keys of the notices, and has the pool finish if there will be no more. -/
def forward (now : Nat) (controller : Controller) : Controller :=
  let keys := controller.watcher.passed.reverse.map (·.key)
  let controller := controller.addAll now keys
  { controller with
    watcher := { controller.watcher with passed := [] }
    pool :=
      if controller.watcher.stage = .stopped then controller.pool.cancel else controller.pool }

/-- A worker reconciles a key without taking any time. -/
def attempt (layout : Layout) (key : Key) (surroundings : Surroundings) :
    Course × Surroundings :=
  let (result, surroundings) := surroundings.reconcile layout key
  (.ends 0 result, surroundings)

def poolBehaviour (settings : ControllerSettings) : Behaviour (Pool Surroundings) PoolEvent :=
  Pool.behaviour (attempt settings.layout) settings.policy

def behaviour (settings : ControllerSettings) : Behaviour Controller ControllerEvent where
  occur
    | .watcher event => watch ((Watcher.behaviour settings.period).occur event)
    | .pool event => work ((poolBehaviour settings).occur event)
    | .sweep => sweep settings
  settle := fun now controller =>
    let (controller, polls) := watch (Watcher.behaviour settings.period).settle now controller
    let (controller, sweeps) := sweepFirst settings now controller
    let (controller, attempts) := work (poolBehaviour settings).settle now (controller.forward now)
    (controller, polls ++ sweeps ++ attempts)

/-- How the controller has ended, once everything in it has. -/
def end? (controller : Controller) : Option ControllerEnd :=
  if controller.watcher.stage = .stopped && controller.pool.hasStopped then
    some (if controller.watcher.isCancelled then .cancelled else .watcherLost)
  else none

end Controller

end ServiceRecords.Simulation
