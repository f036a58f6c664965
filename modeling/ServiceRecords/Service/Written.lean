import ServiceRecords.Json.Fields
import ServiceRecords.Service

set_option autoImplicit false

/-!
Services and specifications as JSON. Both may be written as objects or as arrays of their fields;
`value` writes them as objects in declared order and leaves out what is absent.
-/

namespace ServiceRecords

open Json

/-- The member of an object for a field that may be absent. -/
def Json.member? {α : Type} (name : String) (write : α → Value) :
    Option α → List (String × Value)
  | none => []
  | some a => [(name, write a)]

/-- A port is a whole number below 2^16. -/
def Json.port? (value : Value) : Option UInt16 := (value.below? UInt16.size).map .ofNat

/-- A time to live is a whole number below 2^32. -/
def Json.ttl? (value : Value) : Option UInt32 := (value.below? UInt32.size).map .ofNat

namespace Protocol

def value (protocol : Protocol) : Value := .ofString protocol.name

/-- A protocol is written as its name, or as an object with the name as its only member. -/
def ofValue? : Value → Option Protocol
  | .string (some name) => ofName? name
  | .object [(some name, .null)] => ofName? name
  | _ => none

end Protocol

namespace Endpoint

def value (endpoint : Endpoint) : Value :=
  .ofMembers
    [("name", .ofString endpoint.name),
     ("host", .ofString endpoint.host),
     ("port", .ofNat endpoint.port.toNat),
     ("protocol", endpoint.protocol.value)]

def ofValue? (value : Value) : Option Endpoint :=
  match value.fields? ["name", "host", "port", "protocol"] with
  | some [some name, some host, some port, protocol] => do
    let name ← name.string?
    let host ← host.string?
    let port ← port? port
    let protocol ← Value.withDefault? .grpc Protocol.ofValue? protocol
    return { name, host, port, protocol }
  | _ => none

end Endpoint

namespace Spec

def value (spec : Spec) : Value :=
  .ofMembers <|
    [("zone", .ofString spec.zone),
     ("endpoints", .array (spec.endpoints.map Endpoint.value))] ++
    member? "ttl" (fun ttl : UInt32 => .ofNat ttl.toNat) spec.ttl

def endpoints? : Value → Option (List Endpoint)
  | .array items => items.mapM Endpoint.ofValue?
  | _ => none

def ofValue? (value : Value) : Option Spec :=
  match value.fields? ["zone", "endpoints", "ttl"] with
  | some [some zone, endpoints, ttl] => do
    let zone ← zone.string?
    let endpoints ← Value.withDefault? [] endpoints? endpoints
    let ttl ← Value.optional? ttl? ttl
    return { zone, endpoints, ttl }
  | _ => none

def text (spec : Spec) : String := spec.value.text

def ofText? (text : String) : Option Spec := (Value.ofText? text).bind ofValue?

end Spec

namespace Metadata

def value (metadata : Metadata) : Value :=
  .ofMembers <|
    member? "deletionTimestamp" (fun moment : Moment => .ofString moment.text) metadata.deletion ++
    member? "generateName" .ofString metadata.generateName ++
    member? "name" .ofString metadata.name ++
    member? "namespace" .ofString metadata.ns

/-- The value of a member that may be repeated: every occurrence must be readable, and the last
one counts. -/
def last? {α : Type} (read : Value → Option α) (name : String)
    (members : List (String × Value)) : Option (Option α) := do
  let values ← (members.filter (·.1 == name)).mapM fun (_, value) =>
    Value.optional? read (some value)
  return values.getLast?.join

/-- The members of an object, for a reader of some of them. -/
def members? : Value → Option (List (String × Value))
  | .object members => members.mapM fun (name, value) => name.map (·, value)
  | _ => none

/-- Checks members that say nothing here. -/
def check? {α : Type} (read : Value → Option α) (names : List String)
    (members : List (String × Value)) : Option Unit := do
  let _ ← names.mapM fun name => last? read name members

def moment? (value : Value) : Option Moment := value.string?.bind Moment.ofText?

def truth? : Value → Option Bool
  | .boolean truth => some truth
  | _ => none

def items? {α : Type} (read : Value → Option α) : Value → Option (List α)
  | .array items => items.mapM read
  | _ => none

/-- Reads an object from names to texts. -/
def dictionary? (value : Value) : Option (List (String × String)) := do
  (← members? value).mapM fun (name, value) => value.string?.map (name, ·)

/-- A whole number of 64 bits with a sign; zero has none. -/
def wide? : Value → Option Int
  | .number n =>
    if n.negative ∧ n.whole = ['0'] then none
    else n.integer?.filter fun n => decide (-Int.pow 2 63 ≤ n ∧ n < Int.pow 2 63)
  | _ => none

/-- Reads somebody who set fields; what was set is not looked at, but it is not nested too deep
and holds no numbers out of range. -/
def manager? (value : Value) : Option Unit := do
  let members ← members? value
  check? Value.string? ["apiVersion", "fieldsType", "manager", "operation", "subresource"] members
  check? (fun value => if value.isBounded 124 then some () else none) ["fieldsV1"] members
  check? moment? ["time"] members

def owner? (value : Value) : Option Unit := do
  let members ← members? value
  check? Value.string? ["apiVersion", "kind", "name", "uid"] members
  check? truth? ["blockOwnerDeletion", "controller"] members

def ofValue? (value : Value) : Option Metadata := do
  let members ← members? value
  check? dictionary? ["annotations", "labels"] members
  check? moment? ["creationTimestamp"] members
  check? wide? ["deletionGracePeriodSeconds", "generation"] members
  check? (items? Value.string?) ["finalizers"] members
  check? (items? manager?) ["managedFields"] members
  check? (items? owner?) ["ownerReferences"] members
  check? Value.string? ["resourceVersion", "selfLink", "uid"] members
  return {
    deletion := ← last? moment? "deletionTimestamp" members
    generateName := ← last? Value.string? "generateName" members
    name := ← last? Value.string? "name" members
    ns := ← last? Value.string? "namespace" members }

end Metadata

namespace Service

def apiVersion : String := "rpc.firestoned.io/v1alpha1"

def kind : String := "RpcService"

def value (service : Service) : Value :=
  .ofMembers
    [("apiVersion", .ofString apiVersion),
     ("kind", .ofString kind),
     ("metadata", service.metadata.value),
     ("spec", service.spec.value)]

def ofValue? (value : Value) : Option Service :=
  match value.fields? ["metadata", "spec"] with
  | some [some metadata, some spec] => do
    let metadata ← Metadata.ofValue? metadata
    let spec ← Spec.ofValue? spec
    return { metadata, spec }
  | _ => none

def text (service : Service) : String := service.value.text

def ofText? (text : String) : Option Service := (Value.ofText? text).bind ofValue?

end Service

end ServiceRecords
