import ServiceRecords.Text.Segments

set_option autoImplicit false

/-!
The settings of the command line: their spellings, the environment variables that may hold them,
and how their values are read.
-/

namespace ServiceRecords.CommandLine

inductive Setting where
  | kubeconfig
  | master
  | scope
  | healthPort
  | keyFile
  | certificateFile
  | authorityFile
  | endpoints
  | root
  | storeTimeout
  | owner
  | workers
  | maxRetries
  | retryForever
  | resyncPeriod
  deriving DecidableEq, Repr

/-- What a setting takes as its value. -/
inductive ValueKind where
  | text
  /-- A text that is not empty -/
  | path
  /-- Texts separated by commas; such a setting may be given again -/
  | texts
  /-- A number up to a limit; it may be signed where a minus before zero is accepted -/
  | number (limit : Nat) (isSigned : Bool)
  /-- No value on the command line -/
  | switch
  deriving DecidableEq, Repr

namespace Setting

/-- All settings, in the order in which the environment is looked at. -/
def all : List Setting :=
  [kubeconfig, master, scope, healthPort, keyFile, certificateFile, authorityFile, endpoints,
   root, storeTimeout, owner, workers, maxRetries, retryForever, resyncPeriod]

def name : Setting → String
  | kubeconfig => "kubeconfig"
  | master => "master"
  | scope => "namespace"
  | healthPort => "health-port"
  | keyFile => "etcd-key-file"
  | certificateFile => "etcd-cert-file"
  | authorityFile => "etcd-ca-cert-file"
  | endpoints => "etcd-endpoints"
  | root => "store-prefix"
  | storeTimeout => "store-timeout-secs"
  | owner => "owner-id"
  | workers => "workers"
  | maxRetries => "max-retries"
  | retryForever => "retry-forever"
  | resyncPeriod => "resync-period-secs"

/-- Another spelling of the name. -/
def otherName? : Setting → Option String
  | healthPort => some "healthport"
  | keyFile => some "etcdkeyfile"
  | certificateFile => some "etcdcertfile"
  | authorityFile => some "etcdcacertfile"
  | endpoints => some "etcdendpoints"
  | _ => none

/-- The environment variable that holds the setting if the command line does not. -/
def environmentName? : Setting → Option String
  | kubeconfig => none
  | master => some "KUBE_MASTER"
  | scope => some "WATCH_NAMESPACE"
  | healthPort => some "HEALTH_PORT"
  | keyFile => some "ETCD_KEY_FILE"
  | certificateFile => some "ETCD_CERT_FILE"
  | authorityFile => some "ETCD_CA_CERT_FILE"
  | endpoints => some "ETCD_ENDPOINTS"
  | root => some "STORE_PREFIX"
  | storeTimeout => some "STORE_TIMEOUT_SECS"
  | owner => some "OWNER_ID"
  | workers => some "WORKERS"
  | maxRetries => some "MAX_RETRIES"
  | retryForever => some "RETRY_FOREVER"
  | resyncPeriod => some "RESYNC_PERIOD_SECS"

def kind : Setting → ValueKind
  | kubeconfig | keyFile | certificateFile | authorityFile => .path
  | master | scope | root | owner => .text
  | endpoints => .texts
  | healthPort => .number (UInt16.size - 1) true
  | maxRetries => .number (UInt32.size - 1) true
  | storeTimeout | workers | resyncPeriod => .number (UInt64.size - 1) false
  | retryForever => .switch

def ofName? (text : String) : Option Setting :=
  all.find? fun setting => setting.name == text || setting.otherName? == some text

end Setting

/-- The value of a setting. -/
inductive SettingValue where
  | text (text : String)
  | texts (texts : List String)
  | number (number : Nat)
  | truth (truth : Bool)
  deriving DecidableEq, Repr

/-- Why a command line is refused. -/
inductive UsageError where
  | unknownArgument
  /-- An unknown word where a command is expected -/
  | invalidSubcommand
  /-- A value is missing or none of those that are possible. -/
  | invalidValue
  /-- A value is no number of the range. -/
  | invalidNumber
  | tooManyValues
  | missingArgument
  | conflict
  deriving DecidableEq, Repr

/-- The number that decimal digits after an optional plus stand for. -/
def readNumber? (limit : Nat) (isSigned : Bool) (text : String) : Option Nat :=
  let read (digits : List Char) : Option Nat :=
    if !digits.isEmpty && digits.all Char.isDigit then
      let number := Nat.ofDigitChars 10 digits 0
      if number ≤ limit then some number else none
    else none
  match text.toList with
  | '+' :: digits => read digits
  | '-' :: digits => if isSigned then (read digits).filter (· == 0) else none
  | digits => read digits

/-- Reads the value of a setting as it was written. -/
def ValueKind.read (written : String) : ValueKind → Except UsageError SettingValue
  | .text => .ok (.text written)
  | .path => if written = "" then .error .invalidValue else .ok (.text written)
  | .texts => .ok (.texts (Text.segments ',' written))
  | .number limit isSigned =>
    match readNumber? limit isSigned written with
    | some n => .ok (.number n)
    | none => .error .invalidNumber
  | .switch =>
    if written = "true" then .ok (.truth true)
    else if written = "false" then .ok (.truth false)
    else .error .invalidValue

end ServiceRecords.CommandLine
