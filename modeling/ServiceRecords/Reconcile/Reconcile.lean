import ServiceRecords.Reconcile.Procedure
import ServiceRecords.Record.Changes

set_option autoImplicit false

/-!
Reconciliation brings the stored entries of one key in line with its cached service. It first
cleans the stale zones of the key, then writes what differs between the stored entries and the
wanted ones. On entries that are already right it writes nothing.
-/

namespace ServiceRecords

/-- What a reconciliation did to the store. -/
inductive Outcome where
  | created
  | updated
  | deleted
  | unchanged
  deriving DecidableEq, Repr

namespace Outcome

def name : Outcome → String
  | created => "created"
  | updated => "updated"
  | deleted => "deleted"
  | unchanged => "noop"

/-- The outcome of a number of writes that would make a `change`. -/
def ofWrites (writes : Nat) (change : Outcome) : Outcome :=
  if writes = 0 then unchanged else change

end Outcome

/-- Why a reconciliation was given up. -/
inductive ReconcileError where
  | store (error : StoreError)
  | record (error : RecordError)
  deriving DecidableEq, Repr

namespace ReconcileError

def message : ReconcileError → String
  | store error => error.message
  | record error => error.message

/-- Whether another attempt may succeed. -/
def isRetryable : ReconcileError → Bool
  | store error => error.isRetryable
  | record _ => false

def category : ReconcileError → String
  | store error => error.category
  | record _ => "invalid_spec"

end ReconcileError

/-- A procedure that may be given up. -/
abbrev Attempt := ExceptT ReconcileError Procedure

namespace Attempt

def ask (r : Request) : Attempt r.Reply := ExceptT.lift (Procedure.request r)

def list (start : String) : Attempt (List (String × String)) :=
  ExceptT.mk ((Procedure.request (.list start)).bind fun reply => .done (reply.mapError .store))

def put (key value : String) : Attempt Unit :=
  ExceptT.mk ((Procedure.request (.put key value)).bind fun reply => .done (reply.mapError .store))

def delete (key : String) : Attempt Unit :=
  ExceptT.mk ((Procedure.request (.delete key)).bind fun reply => .done (reply.mapError .store))

def ofRecord {α : Type} (result : Except RecordError α) : Attempt α :=
  ExceptT.mk (.done (result.mapError .record))

end Attempt

/-- Whether a key lies in a directory itself and not in one further below. -/
def isDirectlyBelow (directory key : String) : Bool :=
  match Text.after? (directory ++ "/") key with
  | some leaf => leaf != "" && !leaf.toList.contains '/'
  | none => false

/-- The entries that lie directly in a directory. -/
def listEntries (directory : String) : Attempt (List (String × String)) := do
  let entries ← Attempt.list (directory ++ "/")
  return entries.filter fun (key, _) => isDirectlyBelow directory key

/-- Deletes the owned entries of a directory one by one; their number. -/
def deleteOwned (layout : Layout) (directory : String) : Attempt Nat := do
  let entries ← listEntries directory
  let owned := entries.filter fun (_, value) => layout.owns value
  owned.forM fun (key, _) => Attempt.delete key
  return owned.length

/-- Cleans the zones in order; the number of entries deleted. A zone that cannot hold entries of
the key is passed over. -/
def cleanZones (layout : Layout) (key : Key) : List String → Attempt Nat
  | [] => return 0
  | zone :: rest => do
    match layout.directory key zone with
    | .ok directory =>
      let deleted ← deleteOwned layout directory
      let others ← cleanZones layout key rest
      return deleted + others
    | .error _ => cleanZones layout key rest

/-- Writes the entries of a service that is to be published. -/
def publish (layout : Layout) (service : Service) (cleaned : Nat) : Attempt Outcome := do
  let record ← Attempt.ofRecord (layout.record service)
  let current ← listEntries record.directory
  let changes := Changes.between layout record.entries current
  changes.puts.forM fun (key, value) => Attempt.put key value
  changes.deletes.forM fun key => Attempt.delete key
  let writes := cleaned + changes.puts.length + changes.deletes.length
  return .ofWrites writes <|
    if record.entries.isEmpty then .deleted
    else if current.isEmpty then .created
    else .updated

/-- Deletes the entries of a service that is being deleted. -/
def withdraw (layout : Layout) (key : Key) (service : Service) (cleaned : Nat) :
    Attempt Outcome := do
  let directory ← Attempt.ofRecord (layout.directory key service.spec.zone)
  let deleted ← deleteOwned layout directory
  return .ofWrites (cleaned + deleted) .deleted

/-- The zone, in normal form, that a cached service is to be published in. -/
def wantedZone? (cached : Option Service) : Option String :=
  (cached.filter (!·.isDeleting)).map fun service => Dns.Zone.normalize service.spec.zone

/-- Reconciles one key. A stale zone that is also the wanted one stays marked; the marks of the
others are cleared when all of them are clean. -/
def reconcile (layout : Layout) (key : Key) : Attempt Outcome := do
  let cached ← Attempt.ask (.readService key)
  let stale ← Attempt.ask (.readStale key)
  let unwanted := stale.filter fun zone => wantedZone? cached != some zone
  let cleaned ← cleanZones layout key unwanted
  unless unwanted.isEmpty do
    Attempt.ask (.clearStale key unwanted)
  match cached with
  | none => return .ofWrites cleaned .deleted
  | some service =>
    if service.isDeleting then withdraw layout key service cleaned
    else publish layout service cleaned

end ServiceRecords
