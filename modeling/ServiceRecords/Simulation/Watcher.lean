import ServiceRecords.Metrics
import ServiceRecords.Simulation.Cluster
import ServiceRecords.Simulation.Timeline

set_option autoImplicit false

/-!
A watcher follows a cluster on behalf of an observer and passes the observer's notices on. It
gives periodic notice of every key as well. It stops when it is told to, when nobody takes its
notices any more, and when it meets a service without a name; and at once if the period is no
time at all.
-/

namespace ServiceRecords.Simulation

inductive Stage where
  | idle
  | running
  | stopped
  deriving DecidableEq, Repr

structure Watcher where
  cluster : Cluster := {}
  feed : Feed := .behind
  stage : Stage := .idle
  isCancelled : Bool := false
  /-- Whether somebody takes the notices -/
  isHeard : Bool := true
  /-- The notices passed on, last first -/
  passed : List Notice := []
  metrics : Metrics := {}

/-- What a watcher waits for. -/
inductive WatcherEvent where
  | retry
  | resync

namespace Watcher

def stop (watcher : Watcher) : Watcher := { watcher with stage := .stopped }

/-- Passes notices on in order; each is counted before it is passed on. -/
def pass (watcher : Watcher) : List Notice → Watcher
  | [] => watcher
  | notice :: rest =>
    let watcher :=
      { watcher with metrics := watcher.metrics.recordWatchEvent notice.kind.name }
    if watcher.isHeard then { watcher with passed := notice :: watcher.passed }.pass rest
    else watcher.stop

/-- Has the observer apply events, one after the other, for as long as the watcher runs. -/
def applyAll (watcher : Watcher) (observer : Observer) : List WatchEvent → Watcher × Observer
  | [] => (watcher, observer)
  | event :: rest =>
    match watcher.stage, observer.apply event with
    | .running, (some notices, observer) => (watcher.pass notices).applyAll observer rest
    | .running, (none, observer) => (watcher.stop, observer)
    | _, _ => (watcher, observer)

/-- How long the watcher waits, in milliseconds, before it asks the cluster again. -/
def retryPause : Nat := 997

/-- The watcher as it works for an observer. -/
abbrev Working := Watcher × Observer

/-- Asks the cluster what is new, and will ask again if that was in vain. -/
def poll : Happening Working WatcherEvent :=
  fun _ (watcher, observer) =>
    if watcher.stage = .running then
      let (events, feed) := watcher.feed.poll watcher.cluster
      ({ watcher with feed }.applyAll observer events,
        if feed.isFollowing then [] else [(retryPause, .retry)])
    else ((watcher, observer), [])

/-- Gives notice of every key, and will do so again after a period. -/
def resync (period : Nat) : Happening Working WatcherEvent :=
  fun _ (watcher, observer) =>
    if watcher.stage = .running then
      ((watcher.pass observer.resync, observer), [(period, .resync)])
    else ((watcher, observer), [])

def behaviour (period : Nat) : Behaviour Working WatcherEvent where
  occur
    | .retry => poll
    | .resync => resync period
  settle := fun now working =>
    if working.1.feed.isFollowing then poll now working else (working, [])

/-- Starts to watch; a watcher that was told to stop before stops at once, and so does one that
would give notice of every key without end. -/
def start (period : Nat) : Happening Working WatcherEvent :=
  fun now (watcher, observer) =>
    if watcher.stage ≠ .idle then ((watcher, observer), [])
    else if watcher.isCancelled || period = 0 then ((watcher.stop, observer), [])
    else
      let (working, planned) := poll now ({ watcher with stage := .running }, observer)
      (working, planned ++ [(period, .resync)])

/-- The connection breaks, and the watcher asks at once for the changes that it missed. -/
def reconnect : Happening Working WatcherEvent :=
  fun now (watcher, observer) =>
    if watcher.feed.isFollowing then
      poll now ({ watcher with feed := watcher.feed.interrupt }, observer)
    else ((watcher, observer), [])

/-- Tells the watcher to stop, if it has not stopped by itself. -/
def cancel (watcher : Watcher) : Watcher :=
  match watcher.stage with
  | .idle => { watcher with isCancelled := true }
  | .running => { watcher.stop with isCancelled := true }
  | .stopped => watcher

/-- Whoever takes the notices leaves; before the start there is nobody yet. -/
def leave (watcher : Watcher) : Watcher :=
  if watcher.stage = .idle then watcher else { watcher with isHeard := false }

def updateCluster (watcher : Watcher) (change : Cluster → Cluster) : Watcher :=
  { watcher with cluster := change watcher.cluster }

end Watcher

end ServiceRecords.Simulation
