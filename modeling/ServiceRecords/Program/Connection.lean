import ServiceRecords.Program.Kubeconfig
import ServiceRecords.Text.Pem
import ServiceRecords.Web.HttpAddress
import ServiceRecords.Web.ServerName

set_option autoImplicit false

/-!
How the program finds the cluster: through a configuration file, whose server an argument may
replace. First the file has to select a cluster that it describes, then the argument is looked at,
and then what is needed to connect.
-/

namespace ServiceRecords

/-- Why there is no connection to a cluster. -/
inductive ClusterError where
  | unreadableConfig (path : String)
  | unusableConfig
  | invalidMaster (address : String)
  deriving DecidableEq, Repr

namespace ClusterError

/-- What the program says about the error, if it says more than the reader of the file. -/
def message? : ClusterError → Option String
  | unreadableConfig path => some ("failed to read kubeconfig " ++ path)
  | unusableConfig => none
  | invalidMaster address => some ("invalid --master address '" ++ address ++ "'")

end ClusterError

namespace Kubeconfig

/-- The bytes of files that a configuration names. -/
abbrev Files := String → Option (List UInt8)

/-- Bytes in base 64, or those of a file if there are none. -/
def bytes? (files : Files) (written file : Option String) : Option (List UInt8) :=
  match written with
  | some written => Text.Base64.decode? written.toList
  | none => file.bind files

/-- The selected cluster and the credentials for it. -/
def selected? (config : Kubeconfig) : Option (ClusterAddress × Credentials) := do
  let context ← (config.contexts.lookup (← config.currentContext)).join
  let cluster ← (config.clusters.lookup context.cluster).join
  match context.user with
  | some name => return (cluster, ← (config.users.lookup name).join)
  | none => return (cluster, {})

end Kubeconfig

namespace ClusterAddress

/-- The sections of the authority's certificates; there are none if it is not named. -/
def authorities? (files : Kubeconfig.Files) (cluster : ClusterAddress) :
    Option (List Text.Pem.Section) :=
  if cluster.authority.isNone && cluster.authorityFile.isNone then some []
  else (Kubeconfig.bytes? files cluster.authority cluster.authorityFile).bind Text.Pem.ofBytes?

/-- The proxy, if one is named. -/
def proxy? (cluster : ClusterAddress) : Option String := cluster.proxy.filter (· != "")

/-- The server of a cluster whose description is in order. -/
def server? (files : Kubeconfig.Files) (cluster : ClusterAddress) : Option String :=
  if (cluster.authorities? files).isSome && cluster.proxy?.all Web.HttpAddress.isAddress then
    cluster.server.filter Web.HttpAddress.isAddress
  else none

/-- Whether a connection to the cluster can be made; none goes through a proxy. -/
def isReachable (files : Kubeconfig.Files) (cluster : ClusterAddress) : Bool :=
  let certificates := ((cluster.authorities? files).getD []).filter (·.label == "CERTIFICATE")
  certificates.all (Text.Pem.isCertificate ·.bytes) && cluster.proxy?.isNone &&
    cluster.serverName.all Web.ServerName.isValid

end ClusterAddress

namespace Credentials

/-- Whether a text can be the value of a header. -/
def isHeader (text : String) : Bool :=
  text.toList.all fun c => c = '\t' || (0x20 ≤ c.toNat && c.toNat < 0x7F)

/-- Whether a certificate and a key, if both can be read, are what they should be. -/
def hasGoodIdentity (files : Kubeconfig.Files) (user : Credentials) : Bool :=
  let certificate := Kubeconfig.bytes? files user.certificate user.certificateFile
  let key := Kubeconfig.bytes? files user.key user.keyFile
  match certificate, key with
  | some certificate, some key =>
    match Text.Pem.ofBytes? (key ++ '\n'.toUInt8 :: certificate) with
    | some sections =>
      let isKey (part : Text.Pem.Section) : Bool :=
        ["PRIVATE KEY", "RSA PRIVATE KEY", "EC PRIVATE KEY"].contains part.label
      sections.any isKey && sections.any (·.label == "CERTIFICATE") &&
        sections.all fun part => isKey part || part.label == "CERTIFICATE"
    | none => false
  | _, _ => true

/-- Whether a service that grants credentials has granted some. -/
def hasGrant (provider : String × List (String × String)) : Bool :=
  ["oidc", "gcp"].contains provider.1 && (provider.2.lookup "id-token").isSome

/-- Whether the user can be made known to a cluster, as far as files tell. -/
def areUsable (files : Kubeconfig.Files) (user : Credentials) : Bool :=
  let isKnown := match user.provider with
    | some provider => hasGrant provider
    | none =>
      (user.userName.isSome && user.password.isSome) || user.token.isSome ||
        match user.tokenFile with
        | some file => (files file).isSome
        | none => !user.hasProgram
  user.hasGoodIdentity files && isKnown && user.actsAs.all isHeader &&
    (user.actsIn.getD []).all isHeader

end Credentials

namespace Kubeconfig

/-- The address of the cluster. -/
def connect (files : Files) (config : Option Kubeconfig) (path : String)
    (master : Option String) : Except ClusterError String := do
  let some config := config | throw (.unreadableConfig path)
  let some (cluster, user) := config.selected? | throw .unusableConfig
  let some server := cluster.server? files | throw .unusableConfig
  let address ← match master with
    | none => pure server
    | some master =>
      if Web.HttpAddress.isAddress master then pure master else throw (.invalidMaster master)
  if cluster.isReachable files && user.areUsable files then return address
  else throw .unusableConfig

end Kubeconfig

end ServiceRecords
