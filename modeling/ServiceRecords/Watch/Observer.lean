import ServiceRecords.Watch.Cache
import ServiceRecords.Watch.StaleZones

set_option autoImplicit false

/-!
The observer turns changes of services into notices. It keeps the cache up to date before it
gives notice of a key, and remembers the zones that services leave. A list of all services
replaces the cache once it is complete: cached keys that were not listed have vanished.
-/

namespace ServiceRecords

/-- What the observer is told about services. -/
inductive WatchEvent where
  | applied (service : Service)
  | deleted (service : Service)
  /-- A list of all services begins. -/
  | listStarted
  | listed (service : Service)
  | listComplete

inductive NoticeKind where
  | added
  | updated
  | deleted
  | resync
  deriving DecidableEq, Repr

namespace NoticeKind

def name : NoticeKind → String
  | added => "added"
  | updated => "updated"
  | deleted => "deleted"
  | resync => "resync"

end NoticeKind

/-- That a key needs work, and why. -/
structure Notice where
  kind : NoticeKind
  key : Key
  deriving DecidableEq, Repr

structure Observer where
  cache : Cache := .empty
  stale : StaleZones := .empty
  /-- The services of a list that is not complete yet -/
  buffer : Cache := .empty
  /-- The keys of that list, if one is in progress -/
  listing : Option (Std.ExtTreeSet Key) := none
  /-- Whether a list was ever complete -/
  isReady : Bool := false

namespace Observer

def mark (observer : Observer) (key : Key) (zone : String) : Observer :=
  { observer with stale := observer.stale.mark key zone }

/-- Remembers the zone of the cached service if the new one is published elsewhere. -/
def rememberMove (observer : Observer) (service : Service) : Observer :=
  match observer.cache.find? service.key with
  | some previous =>
    if Dns.Zone.normalize previous.spec.zone = Dns.Zone.normalize service.spec.zone then observer
    else observer.mark service.key previous.spec.zone
  | none => observer

/-- Remembers the zone of the cached service. -/
def rememberCached (observer : Observer) (key : Key) : Observer :=
  match observer.cache.find? key with
  | some previous => observer.mark key previous.spec.zone
  | none => observer

/-- The cached keys that the complete list does not hold, in order and without repetition. -/
def vanished (observer : Observer) : List Key :=
  let listed := observer.listing.getD ∅
  (Std.ExtTreeSet.ofList (observer.cache.keys.filter (!listed.contains ·))).toList

/-- The complete list replaces the cache. -/
def completeList (observer : Observer) : List Notice × Observer :=
  let vanished := observer.vanished
  let listed := (observer.listing.getD ∅).toList
  let remembered := vanished.foldl rememberCached observer
  (vanished.map (⟨.deleted, ·⟩) ++ listed.map (⟨.resync, ·⟩),
    { remembered with
      cache := observer.buffer, buffer := .empty, listing := none, isReady := true })

/-- Applies an event. There are no notices if the service has no name. -/
def apply (observer : Observer) : WatchEvent → Option (List Notice) × Observer
  | .applied service =>
    let kind := if (observer.cache.find? service.key).isSome then .updated else .added
    let observer := observer.rememberMove service
    match observer.cache.insert? service with
    | some cache => (some [⟨kind, service.key⟩], { observer with cache })
    | none => (none, observer)
  | .deleted service =>
    let observer := (observer.rememberCached service.key).mark service.key service.spec.zone
    match observer.cache.erase? service with
    | some cache => (some [⟨.deleted, service.key⟩], { observer with cache })
    | none => (none, observer)
  | .listStarted => (some [], { observer with buffer := .empty, listing := some ∅ })
  | .listed service =>
    let observer := observer.rememberMove service
    let listing := some ((observer.listing.getD ∅).insert service.key)
    match observer.buffer.insert? service with
    | some buffer => (some [], { observer with buffer, listing })
    | none => (none, { observer with listing })
  | .listComplete =>
    let (notices, observer) := observer.completeList
    (some notices, observer)

/-- A notice for every cached key, in order. -/
def resync (observer : Observer) : List Notice :=
  observer.cache.keys.map (⟨.resync, ·⟩)

end Observer

end ServiceRecords
