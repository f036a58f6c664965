import ServiceRecords.Config.Error
import ServiceRecords.Text.Segments
import ServiceRecords.Web.Url

set_option autoImplicit false

/-!
The endpoints of the store. They are given in lists separated by commas; an endpoint without a
scheme gets the only one that is allowed. How web addresses are read is a parameter.
-/

namespace ServiceRecords.Config

/-- Reads a web address. -/
abbrev ReadUrl := String → Except Web.UrlFault Web.Url

/-- The items of lists separated by commas, without blanks around them and blank ones. -/
def endpointItems (raw : List String) : List String :=
  ((raw.flatMap (Text.segments ',')).map Text.trim).filter (· != "")

/-- Whether a text mentions a scheme. -/
def hasScheme (item : String) : Bool := Text.occurs [':', '/', '/'] item.toList

/-- The address that an item stands for. -/
def candidate (item : String) : String := if hasScheme item then item else "https://" ++ item

def withoutFinalSlashes (text : String) : String :=
  .ofList (Text.dropEnd (· == '/') text.toList)

def addressFault? (read : ReadUrl) (candidate : String) : Option AddressFault :=
  match read candidate with
  | .error fault => some (.unreadable fault)
  | .ok url =>
    if url.scheme ≠ "https" then some .wrongScheme
    else if url.host = "" then some .noHost
    else none

/-- The endpoint that an item stands for, written as it was given. -/
def endpoint (read : ReadUrl) (item : String) : Except ConfigError String :=
  match addressFault? read (candidate item) with
  | some fault => .error (.invalidEndpoint item fault)
  | none => .ok (withoutFinalSlashes (candidate item))

/-- The endpoints of lists separated by commas, of which there must be one. -/
def endpoints (read : ReadUrl) (raw : List String) : Except ConfigError (List String) := do
  let endpoints ← (endpointItems raw).mapM (endpoint read)
  if endpoints.isEmpty then throw .emptyEndpoints
  return endpoints

end ServiceRecords.Config
