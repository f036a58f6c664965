import ServiceRecords.Dns.Zone
import ServiceRecords.Record.Entry
import ServiceRecords.Record.Error

set_option autoImplicit false

/-!
Where the records of a service are stored. The labels of its name are directories below a root
in reverse order, and every endpoint is one entry in the innermost directory: the service `a` of
namespace `svc` in the zone `x.y` has its entries directly below `root/y/x/svc/a`.
-/

namespace ServiceRecords

/-- The root directory of all records and the owner who writes them. -/
structure Layout where
  root : String := "/skydns"
  owner : String := "rpc-controller"
  deriving DecidableEq, Repr

/-- The entries of one service by their full keys. -/
structure Record where
  directory : String
  entries : Std.ExtTreeMap String Entry

/-- What a key in the store belongs to. -/
structure Location where
  key : Key
  zone : String
  endpoint : String
  deriving DecidableEq, Repr

def checkedLabel (place : LabelPlace) (label : String) : Except RecordError String :=
  match Dns.Label.fault? label with
  | some fault => .error (.invalidLabel place label fault)
  | none => .ok label.toLower

/-- The labels of the name of a service, innermost first. -/
def nameLabels (key : Key) (zone : String) : Except RecordError (List String) := do
  if Dns.Zone.published zone = "" then throw .emptyZone
  let name ← checkedLabel .name key.name
  let ns ← checkedLabel .namespaceName key.ns
  let zone ← (Dns.Zone.labels zone).mapM (checkedLabel .zone)
  let labels := name :: ns :: zone
  if (Text.join '.' labels).utf8ByteSize > RecordError.maxNameBytes then
    throw (.nameTooLong (Text.join '.' labels))
  return labels

/-- The entry of an endpoint whose name has been accepted as `name`. -/
def Endpoint.entry (owner : String) (ttl : Option UInt32) (name : String) (endpoint : Endpoint) :
    Except RecordError Entry := do
  let host := Text.trim endpoint.host
  if host.toList = [] ∨ host.toList.any Text.isBlank then
    throw (.invalidEndpoint name .unusableHost)
  if endpoint.port = 0 then throw (.invalidEndpoint name .zeroPort)
  return { host, port := endpoint.port, ttl, protocol := some endpoint.protocol,
           owner := some owner }

/-- The entries of a list of endpoints under their names, none of which may be in `taken`. -/
def namedEntries (owner : String) (ttl : Option UInt32) (taken : List String) :
    List Endpoint → Except RecordError (List (String × Entry))
  | [] => .ok []
  | endpoint :: rest => do
    let name ← checkedLabel .endpointName endpoint.name
    if name ∈ taken then throw (.duplicateEndpoint name)
    let entry ← endpoint.entry owner ttl name
    let others ← namedEntries owner ttl (name :: taken) rest
    return (name, entry) :: others

/-- The fully qualified name under which a service is found. -/
def fullName (key : Key) (zone : String) : Except RecordError String := do
  let labels ← nameLabels key zone
  return Text.join '.' labels ++ "."

namespace Layout

/-- The directory that holds the entries of a service. -/
def directory (layout : Layout) (key : Key) (zone : String) : Except RecordError String := do
  let labels ← nameLabels key zone
  return layout.root ++ "/" ++ Text.join '/' labels.reverse

/-- The key of an entry in a directory. -/
def entryKey (directory name : String) : String := directory ++ "/" ++ name

/-- The entries that a service asks for. -/
def record (layout : Layout) (service : Service) : Except RecordError Record := do
  let directory ← layout.directory service.key service.spec.zone
  let named ← namedEntries layout.owner service.spec.ttl [] service.spec.endpoints
  return ⟨directory, .ofList (named.map fun (name, entry) => (entryKey directory name, entry))⟩

/-- What a key below the root belongs to, when it has enough segments and no empty one. -/
def locate? (layout : Layout) (key : String) : Option Location := do
  let below ← Text.after? (layout.root ++ "/") key
  let segments := Text.segments '/' below
  if segments.any (· == "") then none
  match segments.reverse with
  | endpoint :: name :: ns :: label :: labels =>
    some ⟨⟨ns, name⟩, Text.join '.' (label :: labels), endpoint⟩
  | _ => none

def owns (layout : Layout) (value : String) : Bool := Entry.isOwnedBy layout.owner value

def decode (key value : String) : Except RecordError Entry :=
  match Entry.ofText? value with
  | some entry => .ok entry
  | none => .error (.malformedValue key)

end Layout

end ServiceRecords
