import ServiceRecords.CommandLine.Arguments
import ServiceRecords.CommandLine.Help
import ServiceRecords.Program.Connection
import ServiceRecords.Program.LogFilter
import ServiceRecords.Store.Connection

set_option autoImplicit false

/-!
The course of the program from its arguments to its end. Everything is checked before anything is
started, and the first thing that is wrong ends the program.
-/

namespace ServiceRecords.Program

/-- What the program finds where it runs. -/
structure World where
  environment : CommandLine.Environment
  files : Config.ReadFile
  /-- The address of the cluster if no file is named -/
  standardCluster : Except ClusterError String
  /-- Whether credentials can be used to call the store -/
  acceptsCredentials : Config.Tls → Bool

/-- Why the program does not start. -/
inductive Failure where
  | store (error : ConfigError)
  | controller (error : ConfigError)
  | cluster (error : ClusterError)
  | connection
  deriving DecidableEq, Repr

namespace Failure

def title : Failure → String
  | store _ => "invalid key-value store configuration"
  | controller _ => "invalid controller configuration"
  | cluster error => error.message?.getD "no usable cluster"
  | connection => "failed to connect to etcd"

/-- What led to the failure, outermost first. -/
def causes : Failure → List String
  | store error => error.chain
  | controller error => error.chain
  | _ => []

/-- A cause with a mark before its first line; further lines stand below its text. -/
def indented (mark margin cause : String) : String :=
  mark ++ String.intercalate ("\n" ++ margin) (Text.segments '\n' cause)

/-- The causes one below the other, with numbers if there are several. -/
def causeTexts : List String → List String
  | [cause] => [indented "    " "    " cause]
  | causes => causes.zipIdx.map fun (cause, number) =>
    indented ("    " ++ number.repr ++ ": ") "       " cause

/-- What the program writes when it fails. -/
def text (failure : Failure) : String :=
  "Error: " ++ failure.title ++
    match failure.causes with
    | [] => ""
    | causes => "\n\nCaused by:\n" ++ String.intercalate "\n" (causeTexts causes)

end Failure

inductive Signal where
  | interrupt
  | terminate
  deriving DecidableEq, Repr

namespace Signal

def name : Signal → String
  | interrupt => "SIGINT"
  | terminate => "SIGTERM"

end Signal

/-- What a start comes to: a running controller, or a failure. -/
structure Start where
  log : List LogLine
  failure : Option Failure

def info (message : String) : LogLine := { level := .info, message }

def debug (message : String) : LogLine := { level := .debug, message }

/-- What is logged when the controller starts. -/
def running : List LogLine :=
  let controller := LogLine.within "controller"
  [{ info "Connected to etcd" with values := ["endpoints"] }.within "store::etcd",
   controller { info "Starting RpcService controller" with
     values := ["namespace", "prefix", "owner", "workers"] },
   controller (info "Controller main loop started")]

/-- The cluster configuration in a file. -/
def kubeconfig? (world : World) (path : String) : Option Kubeconfig :=
  match world.files path with
  | .ok bytes => (String.fromUTF8? (ByteArray.mk bytes.toArray)).bind Kubeconfig.ofText?
  | .error _ => none

/-- Where the cluster is, by the arguments. -/
def cluster (world : World) (arguments : CommandLine.Arguments) : Except ClusterError String := do
  match arguments.kubeconfig with
  | some path =>
    let files (path : String) := (world.files path).toOption
    Kubeconfig.connect files (kubeconfig? world path) path arguments.master
  | none =>
    let server ← world.standardCluster
    match arguments.master with
    | none => return server
    | some master =>
      if Web.HttpAddress.isAddress master then return master else throw (.invalidMaster master)

/-- Checks everything in order and starts the controller. -/
def start (world : World) (arguments : CommandLine.Arguments) : Start :=
  let opening := [info "Starting RPC service discovery controller",
    debug "Logging initialized with file and line number tracking"]
  match arguments.store world.files Web.Url.read, arguments.controller with
  | .error error, _ => ⟨opening, some (.store error)⟩
  | .ok _, .error error => ⟨opening, some (.controller error)⟩
  | .ok (tls, store), .ok _ =>
    let opening := opening ++ [debug "Initializing Kubernetes client"]
    match cluster world arguments with
    | .error error => ⟨opening, some (.cluster error)⟩
    | .ok _ =>
      let opening := opening ++ [debug "Kubernetes client initialized successfully"]
      if world.acceptsCredentials tls && store.endpoints.all Store.canConnect then
        ⟨opening ++ running, none⟩
      else ⟨opening, some .connection⟩

/-- What is logged when a signal ends the running controller. -/
def shutdown (signal : Signal) : List LogLine :=
  [info ("Received " ++ signal.name ++ ", shutting down"),
   (info "Controller stopped").within "controller",
   (info "Health server stopped").within "health", info "Shutdown complete"]

/-- How the program ends. -/
structure Report where
  exit : Nat
  output : String := ""
  log : List LogLine := []
  failure : Option Failure := none

/-- Runs the program; a signal ends the controller once it has started. -/
def run (world : World) (words : List String) (signal : Option Signal) : Report :=
  match CommandLine.read world.environment words with
  | .error (.help place) => { exit := 0, output := CommandLine.helpText place }
  | .error .version => { exit := 0, output := CommandLine.versionText }
  | .error (.refused _) => { exit := 2 }
  | .ok invocation =>
    match invocation.command with
    | some (.completions shell) => { exit := 0, output := shell.script }
    | _ =>
      let filter := LogFilter.ofEnvironment world.environment
      let start := start world (.ofSettings invocation.settings)
      let log := match start.failure, signal with
        | none, some signal => start.log ++ shutdown signal
        | _, _ => start.log
      { exit := if start.failure.isSome then 1 else 0
        log := log.filter filter.passes
        failure := start.failure }

end ServiceRecords.Program
