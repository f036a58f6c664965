import ServiceRecords.Dns.Label

set_option autoImplicit false

/-!
Why a specification cannot be published, or a stored value cannot be read.
-/

namespace ServiceRecords

/-- The part of a specification that a label comes from. -/
inductive LabelPlace where
  | zone
  | name
  | namespaceName
  | endpointName
  deriving DecidableEq, Repr

namespace LabelPlace

def text : LabelPlace → String
  | zone => "zone"
  | name => "name"
  | namespaceName => "namespace"
  | endpointName => "endpoint name"

end LabelPlace

inductive EndpointFault where
  | unusableHost
  | zeroPort
  deriving DecidableEq, Repr

namespace EndpointFault

def reason : EndpointFault → String
  | unusableHost => "host must be a non-empty address without whitespace"
  | zeroPort => "port must be non-zero"

end EndpointFault

inductive RecordError where
  /-- Nothing is left of the zone without blanks and final dots. -/
  | emptyZone
  | invalidLabel (place : LabelPlace) (label : String) (fault : Dns.LabelFault)
  | nameTooLong (name : String)
  | duplicateEndpoint (name : String)
  | invalidEndpoint (name : String) (fault : EndpointFault)
  | malformedValue (key : String)
  deriving DecidableEq, Repr

namespace RecordError

def maxNameBytes : Nat := 253

def labelText (place label reason : String) : String :=
  "invalid DNS label '" ++ label ++ "' in " ++ place ++ ": " ++ reason

def tooLongText (name : String) (length limit : Nat) : String :=
  "DNS name '" ++ name ++ "' is too long (" ++ length.repr ++ " > " ++ limit.repr ++ ")"

def duplicateText (name : String) : String := "duplicate endpoint name '" ++ name ++ "'"

def endpointText (name reason : String) : String :=
  "endpoint '" ++ name ++ "' is invalid: " ++ reason

def malformedText (key reason : String) : String :=
  "malformed record value at '" ++ key ++ "': " ++ reason

def message : RecordError → String
  | emptyZone => labelText LabelPlace.zone.text "" "zone must not be empty"
  | invalidLabel place label fault => labelText place.text label fault.reason
  | nameTooLong name => tooLongText name name.utf8ByteSize maxNameBytes
  | duplicateEndpoint name => duplicateText name
  | invalidEndpoint name fault => endpointText name fault.reason
  | malformedValue key => malformedText key "not a record value"

end RecordError

end ServiceRecords
