import ServiceRecords.Web.Host

set_option autoImplicit false

/-!
Why a configuration is refused.
-/

namespace ServiceRecords

/-- Why a file cannot be read. -/
inductive FileFault where
  | absent
  | isDirectory
  /-- A part of the path that is no directory is used as one. -/
  | noDirectory
  deriving DecidableEq, Repr

namespace FileFault

/-- The message and number of the operating system. -/
def message : FileFault → String
  | absent => "No such file or directory (os error 2)"
  | isDirectory => "Is a directory (os error 21)"
  | noDirectory => "Not a directory (os error 20)"

end FileFault

/-- The files that prove to the store who is calling, and to the caller who is the store. -/
inductive Credential where
  | key
  | certificate
  | authority
  deriving DecidableEq, Repr

namespace Credential

def title : Credential → String
  | key => "etcd client key file"
  | certificate => "etcd client certificate file"
  | authority => "etcd CA certificate file"

end Credential

/-- What is wrong with an endpoint of the store. -/
inductive AddressFault where
  | unreadable (fault : Web.UrlFault)
  | wrongScheme
  | noHost
  deriving DecidableEq, Repr

namespace AddressFault

def reason : AddressFault → String
  | unreadable fault => fault.reason
  | wrongScheme => "scheme must be https"
  | noHost => "missing host"

end AddressFault

/-- A setting outside of its range. -/
inductive SettingFault where
  | blankOwner
  | zeroTimeout
  | noWorkers
  | zeroResyncPeriod
  deriving DecidableEq, Repr

namespace SettingFault

def setting : SettingFault → String
  | blankOwner => "owner-id"
  | zeroTimeout => "store-timeout-secs"
  | noWorkers => "workers"
  | zeroResyncPeriod => "resync-period-secs"

def reason : SettingFault → String
  | blankOwner => "must not be empty"
  | zeroTimeout => "must be greater than zero"
  | noWorkers => "at least one worker is required"
  | zeroResyncPeriod => "must be greater than zero"

end SettingFault

inductive ConfigError where
  | missingFile (file : Credential)
  | unreadableFile (file : Credential) (path : String) (fault : FileFault)
  /-- The file holds no text of the kind in which credentials are kept. -/
  | invalidPem (file : Credential) (path : String)
  | emptyEndpoints
  | invalidEndpoint (endpoint : String) (fault : AddressFault)
  | invalidRoot (root : String)
  | invalidSetting (fault : SettingFault)
  deriving DecidableEq, Repr

namespace ConfigError

def message : ConfigError → String
  | missingFile file => "missing required " ++ file.title
  | unreadableFile file path fault =>
    "failed to read " ++ file.title ++ " at '" ++ path ++ "': " ++ fault.message
  | invalidPem file path => file.title ++ " at '" ++ path ++ "' does not contain PEM data"
  | emptyEndpoints => "no key-value store endpoints configured"
  | invalidEndpoint endpoint fault =>
    "invalid key-value store endpoint '" ++ endpoint ++ "': " ++ fault.reason
  | invalidRoot root =>
    "invalid store prefix '" ++ root ++ "': must start with '/' and not end with '/'"
  | invalidSetting fault => "invalid value for " ++ fault.setting ++ ": " ++ fault.reason

/-- The messages of the error and of what led to it, outermost first. -/
def chain : ConfigError → List String
  | unreadableFile file path fault => [(unreadableFile file path fault).message, fault.message]
  | error => [error.message]

end ConfigError

end ServiceRecords
