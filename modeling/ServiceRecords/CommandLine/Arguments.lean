import ServiceRecords.CommandLine.Reading
import ServiceRecords.Config.Settings

set_option autoImplicit false

/-!
The arguments of the program: every setting with its value or its default, and the configuration
that they make up.
-/

namespace ServiceRecords.CommandLine

structure Arguments where
  kubeconfig : Option String
  master : Option String
  scope : Option String
  healthPort : Nat
  keyFile : Option String
  certificateFile : Option String
  authorityFile : Option String
  endpoints : List String
  root : String
  storeTimeoutSeconds : Nat
  owner : String
  workers : Nat
  maxRetries : Nat
  retryForever : Bool
  resyncPeriodSeconds : Nat
  deriving DecidableEq, Repr

namespace Arguments

/-- The arguments of the settings that have values; the first value of a setting counts. -/
def ofSettings (settings : List (Setting × SettingValue)) : Arguments :=
  let text? (setting : Setting) : Option String :=
    match settings.lookup setting with
    | some (.text text) => some text
    | _ => none
  let number (setting : Setting) (standard : Nat) : Nat :=
    match settings.lookup setting with
    | some (.number number) => number
    | _ => standard
  { kubeconfig := text? .kubeconfig
    master := text? .master
    scope := text? .scope
    healthPort := number .healthPort 12345
    keyFile := text? .keyFile
    certificateFile := text? .certificateFile
    authorityFile := text? .authorityFile
    endpoints :=
      match settings.lookup .endpoints with
      | some (.texts texts) => texts
      | _ => []
    root := (text? .root).getD ({} : Layout).root
    storeTimeoutSeconds := number .storeTimeout 5
    owner := (text? .owner).getD ({} : Layout).owner
    workers := number .workers 2
    maxRetries := number .maxRetries 10
    retryForever := settings.lookup .retryForever == some (.truth true)
    resyncPeriodSeconds := number .resyncPeriod 30 }

/-- The credentials and settings of the store; the first fault in the order credentials,
endpoints, root, owner, timeout is reported. -/
def store (readFile : Config.ReadFile) (readUrl : Config.ReadUrl) (arguments : Arguments) :
    Except ConfigError (Config.Tls × Config.StoreSettings) := do
  let tls ← Config.Tls.load readFile arguments.keyFile arguments.certificateFile
    arguments.authorityFile
  let endpoints ← Config.endpoints readUrl arguments.endpoints
  let settings ← ({ endpoints } : Config.StoreSettings).withRoot arguments.root
  let settings ← settings.withOwner arguments.owner
  let settings ← settings.withTimeout (.ofSeconds arguments.storeTimeoutSeconds)
  return (tls, settings)

def retry (arguments : Arguments) : RetryCeiling :=
  if arguments.retryForever then .unbounded else .bounded (.ofNat arguments.maxRetries)

def controller (arguments : Arguments) : Except ConfigError Config.ControllerSettings :=
  Config.ControllerSettings.checked
    { workers := arguments.workers, retry := arguments.retry,
      resyncPeriod := .ofSeconds arguments.resyncPeriodSeconds, scope := arguments.scope }

end Arguments

end ServiceRecords.CommandLine
