import ServiceRecords.Metrics
import ServiceRecords.Reconcile.Sweep
import ServiceRecords.Store.Memory
import ServiceRecords.Watch.Observer

set_option autoImplicit false

/-!
The surroundings of procedures: what the observer knows, a store in memory, and the keys that
procedures asked to have reconciled. Each request is one step on them.
-/

namespace ServiceRecords

structure Surroundings where
  observer : Observer := {}
  memory : Store.Memory := {}
  /-- The keys that were asked for, last first -/
  requested : List Key := []

namespace Surroundings

/-- Makes a call to the store. -/
def call (surroundings : Surroundings) (call : Store.Call) :
    Except StoreError Unit × Surroundings :=
  let (reply, memory) := surroundings.memory.call call
  (reply, { surroundings with memory })

/-- Changes the record of stale zones. -/
def updateStale (surroundings : Surroundings) (change : StaleZones → StaleZones) : Surroundings :=
  { surroundings with
    observer := { surroundings.observer with stale := change surroundings.observer.stale } }

/-- Serves one request. A listing shows the entries at the time of the call. -/
def answer : (r : Request) → Surroundings → r.Reply × Surroundings
  | .readService key, surroundings => (surroundings.observer.cache.find? key, surroundings)
  | .readStale key, surroundings => (surroundings.observer.stale.zones key, surroundings)
  | .clearStale key zones, surroundings => ((), surroundings.updateStale (·.clear key zones))
  | .markStale key zone, surroundings => ((), surroundings.updateStale (·.mark key zone))
  | .enqueue key, surroundings =>
    ((), { surroundings with requested := key :: surroundings.requested })
  | .list start, surroundings =>
    let (reply, after) := surroundings.call (.list start)
    (reply.map fun _ => Store.listing after.memory.contents start, after)
  | .put key value, surroundings => surroundings.call (.put key value)
  | .delete key, surroundings => surroundings.call (.delete key)

/-- Reconciles a key without interruption. -/
def reconcile (layout : Layout) (key : Key) (surroundings : Surroundings) :
    Except ReconcileError Outcome × Surroundings :=
  (ServiceRecords.reconcile layout key).run.run answer surroundings

/-- Sweeps without interruption; the number of keys to be reconciled. -/
def sweep (layout : Layout) (surroundings : Surroundings) :
    Except StoreError Nat × Surroundings :=
  (ServiceRecords.sweep layout).run.run answer surroundings

/-- The keys that were asked for, in order, which are then forgotten. -/
def takeRequested (surroundings : Surroundings) : List Key × Surroundings :=
  (surroundings.requested.reverse, { surroundings with requested := [] })

/-- Counts the successful writes by operation. -/
def recordWrites (surroundings : Surroundings) (metrics : Metrics) : Metrics :=
  surroundings.memory.history.foldl (fun metrics (call, succeeded) =>
    if succeeded && call.isWrite then metrics.recordStoreWrite call.operation else metrics) metrics

end Surroundings

end ServiceRecords
