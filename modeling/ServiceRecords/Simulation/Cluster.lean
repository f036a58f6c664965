import ServiceRecords.Service.Written
import ServiceRecords.Watch.Observer
import ServiceRecords.Web.HttpAddress

set_option autoImplicit false

/-!
A cluster that serves lists of services and their changes since a revision. Every change makes a
new revision. A cluster may be unreachable for a while, and it may forget the changes that led to
its present revision; whoever knows only an earlier revision has to ask for a list again.
-/

namespace ServiceRecords.Simulation

/-- A change of a service, as observers are told of it. -/
structure Change where
  revision : Nat
  service : Service
  event : WatchEvent

structure Cluster where
  services : Std.ExtTreeMap Key Service := ∅
  revision : Nat := 0
  /-- The changes that are not forgotten, oldest first -/
  changes : List Change := []
  /-- The least revision from which all changes are known -/
  oldest : Nat := 0
  isReachable : Bool := true
  /-- Only services of this namespace are shown. -/
  scope : Option String := none

namespace Cluster

/-- Where the cluster keeps a service. A service without a name has a place of its own, whatever
its name is to be generated from. -/
def place (service : Service) : Key :=
  ⟨service.metadata.ns.getD "", service.metadata.name.getD ""⟩

def shows (cluster : Cluster) (service : Service) : Bool :=
  match cluster.scope with
  | none => true
  | some ns => (place service).ns == ns

/-- Where the shown services are listed. -/
def address (cluster : Cluster) : String :=
  let space := match cluster.scope with
    | none => ""
    | some ns => "namespaces/" ++ ns ++ "/"
  "/apis/" ++ Service.apiVersion ++ "/" ++ space ++ "rpcservices"

/-- Whether requests are answered; nobody can ask at what is no address. -/
def isAnswering (cluster : Cluster) : Bool :=
  cluster.isReachable && Web.HttpAddress.isAddress cluster.address

def record (cluster : Cluster) (service : Service) (event : WatchEvent) : Cluster :=
  let revision := cluster.revision + 1
  { cluster with revision, changes := cluster.changes ++ [⟨revision, service, event⟩] }

/-- Creates or replaces a service. -/
def put (cluster : Cluster) (service : Service) : Cluster :=
  { cluster with services := cluster.services.insert (place service) service }.record service
    (.applied service)

/-- Removes a service, if there is one; observers are told of the last one. -/
def remove (cluster : Cluster) (key : Key) : Cluster :=
  match cluster.services[key]? with
  | none => cluster
  | some service =>
    { cluster with services := cluster.services.erase key }.record service (.deleted service)

/-- Forgets all changes; the present revision is one of those that lie behind. -/
def compact (cluster : Cluster) : Cluster :=
  let revision := cluster.revision + 1
  { cluster with revision, changes := [], oldest := revision }

/-- The events that list all services. -/
def listing (cluster : Cluster) : List WatchEvent :=
  (cluster.services.values.filter cluster.shows).map .listed

/-- The shown changes after a revision. -/
def since (cluster : Cluster) (revision : Nat) : List Change :=
  cluster.changes.filter fun change => revision < change.revision && cluster.shows change.service

end Cluster

/-- How far an observer has followed the changes of a cluster. -/
inductive Feed where
  /-- It needs a list of all services. -/
  | behind
  /-- It knows a revision and has to ask for the changes since then. -/
  | interrupted (revision : Nat)
  /-- It is told of every change after a revision. -/
  | following (revision : Nat)
  deriving DecidableEq, Repr

namespace Feed

def isFollowing : Feed → Bool
  | following _ => true
  | _ => false

/-- The connection breaks. -/
def interrupt : Feed → Feed
  | following revision => interrupted revision
  | feed => feed

/-- The events of the changes after a revision, and the feed when it has seen them. -/
def follow (cluster : Cluster) (revision : Nat) : List WatchEvent × Feed :=
  let changes := cluster.since revision
  (changes.map (·.event), .following ((changes.getLast?.map (·.revision)).getD revision))

/-- One attempt to learn what is new. An attempt that does not end in following the cluster is
to be repeated later. -/
def poll (cluster : Cluster) : Feed → List WatchEvent × Feed
  | behind =>
    if cluster.isAnswering then
      (.listStarted :: cluster.listing ++ [.listComplete], following cluster.revision)
    else ([.listStarted], behind)
  | interrupted revision =>
    if !cluster.isAnswering then ([], interrupted revision)
    else if revision < cluster.oldest then ([], behind)
    else follow cluster revision
  | following revision =>
    if cluster.isAnswering then follow cluster revision else ([], interrupted revision)

end Feed

end ServiceRecords.Simulation
