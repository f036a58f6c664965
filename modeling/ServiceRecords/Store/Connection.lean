import ServiceRecords.Web.HttpAddress
import ServiceRecords.Web.ServerName

set_option autoImplicit false

/-!
What an endpoint must be for a connection to the store to be set up. This does not wait for the
store: whether anybody answers is only known from the first call.
-/

namespace ServiceRecords.Store

/-- How the address of every endpoint begins. -/
def scheme : String := "https://"

/-- Whether an endpoint is the address of a server that can be known by its name. -/
def canConnect (endpoint : String) : Bool :=
  let address := if endpoint.startsWith scheme then endpoint else scheme ++ endpoint
  match Web.HttpAddress.ofText? address with
  | some address => Web.ServerName.isValid address.host
  | none => false

end ServiceRecords.Store
