import ServiceRecords.Service.Written

set_option autoImplicit false

/-!
Entries: one endpoint as the resolver reads it, and its text in the store.
-/

namespace ServiceRecords

open Json

structure Entry where
  host : String
  port : UInt16 := 0
  ttl : Option UInt32 := none
  protocol : Option Protocol := none
  /-- Who wrote the entry -/
  owner : Option String := none
  deriving DecidableEq, Repr

namespace Entry

/-- Host and port as a resolver hands them out. -/
def address (entry : Entry) : String := entry.host ++ ":" ++ entry.port.toNat.repr

def value (entry : Entry) : Value :=
  .ofMembers <|
    [("host", .ofString entry.host), ("port", .ofNat entry.port.toNat)] ++
    member? "ttl" (fun ttl : UInt32 => .ofNat ttl.toNat) entry.ttl ++
    member? "protocol" Protocol.value entry.protocol ++
    member? "owner" .ofString entry.owner

def ofValue? (value : Value) : Option Entry :=
  match value.fields? ["host", "port", "ttl", "protocol", "owner"] with
  | some [some host, port, ttl, protocol, owner] => do
    let host ← host.string?
    let port ← Value.withDefault? 0 port? port
    let ttl ← Value.optional? ttl? ttl
    let protocol ← Value.optional? Protocol.ofValue? protocol
    let owner ← Value.optional? Value.string? owner
    return { host, port, ttl, protocol, owner }
  | _ => none

def text (entry : Entry) : String := entry.value.text

def ofText? (text : String) : Option Entry := (Value.ofText? text).bind ofValue?

/-- Whether a stored text is an entry that `owner` wrote. -/
def isOwnedBy (owner text : String) : Bool :=
  match ofText? text with
  | some entry => entry.owner == some owner
  | none => false

end Entry

end ServiceRecords
