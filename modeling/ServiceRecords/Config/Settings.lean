import ServiceRecords.Config.Endpoints
import ServiceRecords.Config.Tls
import ServiceRecords.Queue.Backoff
import ServiceRecords.Record.Layout

set_option autoImplicit false

/-!
What the controller is configured with: how it reaches the store and lays out its entries there,
and how it works. Settings are checked before anything is started.
-/

namespace ServiceRecords.Config

structure StoreSettings where
  endpoints : List String
  /-- How long a call may take -/
  timeout : Duration := .ofSeconds 5
  connectTimeout : Duration := .ofSeconds 10
  layout : Layout := {}
  deriving DecidableEq, Repr

namespace StoreSettings

/-- A root is an absolute path that does not end with a slash. -/
def isRoot (root : String) : Bool :=
  root.toList.head? == some '/' && root.toList.getLast? != some '/'

def withRoot (settings : StoreSettings) (root : String) : Except ConfigError StoreSettings :=
  if isRoot root then .ok { settings with layout := { settings.layout with root } }
  else .error (.invalidRoot root)

/-- The owner may not be blank; blanks around it are kept. -/
def withOwner (settings : StoreSettings) (owner : String) : Except ConfigError StoreSettings :=
  if Text.trim owner = "" then .error (.invalidSetting .blankOwner)
  else .ok { settings with layout := { settings.layout with owner } }

def withTimeout (settings : StoreSettings) (timeout : Duration) :
    Except ConfigError StoreSettings :=
  if timeout.isZero then .error (.invalidSetting .zeroTimeout)
  else .ok { settings with timeout }

end StoreSettings

structure ControllerSettings where
  workers : Nat := 2
  retry : RetryCeiling := .bounded 10
  /-- The time between two resyncs and between two sweeps -/
  resyncPeriod : Duration := .ofSeconds 30
  backoff : Backoff := {}
  /-- The only namespace whose services are looked at -/
  scope : Option String := none

namespace ControllerSettings

def checked (settings : ControllerSettings) : Except ConfigError ControllerSettings :=
  if settings.workers = 0 then .error (.invalidSetting .noWorkers)
  else if settings.resyncPeriod.isZero then .error (.invalidSetting .zeroResyncPeriod)
  else .ok settings

end ControllerSettings

end ServiceRecords.Config
