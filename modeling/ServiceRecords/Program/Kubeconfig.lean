import ServiceRecords.Yaml.Value

set_option autoImplicit false

/-!
Configuration files for clusters. A file has one or several documents, which are joined; it names
clusters, users, and contexts, which pair a cluster with a user, and selects a context.
-/

namespace ServiceRecords

/-- How to reach a cluster, and how to know it. -/
structure ClusterAddress where
  server : Option String
  /-- The certificate of the authority in base 64 -/
  authority : Option String
  authorityFile : Option String
  proxy : Option String
  /-- The name by which the server is known, if it is not that of the address -/
  serverName : Option String
  deriving DecidableEq, Repr

/-- How a user is known to a cluster. Certificates and keys are in base 64. -/
structure Credentials where
  userName : Option String := none
  password : Option String := none
  token : Option String := none
  tokenFile : Option String := none
  certificate : Option String := none
  certificateFile : Option String := none
  key : Option String := none
  keyFile : Option String := none
  /-- The user to act as, and the groups -/
  actsAs : Option String := none
  actsIn : Option (List String) := none
  provider : Option (String × List (String × String)) := none
  /-- Whether a program is to be asked -/
  hasProgram : Bool := false
  deriving DecidableEq, Repr

structure ClusterContext where
  cluster : String
  user : Option String
  deriving DecidableEq, Repr

/-- What a configuration file says. -/
structure Kubeconfig where
  kind : Option String := none
  version : Option String := none
  currentContext : Option String := none
  clusters : List (String × Option ClusterAddress) := []
  users : List (String × Option Credentials) := []
  contexts : List (String × Option ClusterContext) := []
  deriving DecidableEq, Repr

namespace Kubeconfig

open Yaml (Value)
open Yaml.Value (required)

/-- Reads a member that is a text, if it is there. -/
def text? (fields : List (String × Value)) (name : String) : Option (Option String) :=
  Value.optional Value.string? fields name

def texts? (fields : List (String × Value)) (name : String) : Option (Option (List String)) :=
  Value.optional (Value.list? Value.string?) fields name

def flag? (fields : List (String × Value)) (name : String) : Option (Option Bool) :=
  Value.optional Value.bool? fields name

/-- Reads a mapping from texts to texts. -/
def dictionary? (value : Value) : Option (List (String × String)) := do
  (← value.fields?).mapM fun (name, value) => (value.string?).map (name, ·)

/-- Whether a value has tags nowhere, and only texts as keys. -/
def isPlain : Value → Bool
  | .tagged _ _ => false
  | .list items => items.attach.all fun ⟨item, _⟩ => isPlain item
  | .mapping members => members.attach.all fun ⟨(key, value), _⟩ =>
      key.string?.isSome && isPlain value
  | _ => true
termination_by value => sizeOf value
decreasing_by
  · decreasing_trivial
  · rename_i member
    have := List.sizeOf_lt_of_mem member
    simp_all
    omega

/-- Reads something additional, which has a name and says what nobody here reads. -/
def extension? (value : Value) : Option Unit := do
  let fields ← value.fields?
  let _ ← required Value.string? fields "name"
  required (fun value => if isPlain value then some () else none) fields "extension"

def extensions? (fields : List (String × Value)) : Option Unit :=
  (Value.optional (Value.list? extension?) fields "extensions").map fun _ => ()

/-- Reads a list of named things, which may be missing. -/
def named? {α : Type} (part : String) (read : Value → Option α) (fields : List (String × Value))
    (name : String) : Option (List (String × Option α)) := do
  let entry (value : Value) : Option (String × Option α) := do
    let fields ← value.fields?
    return (← required Value.string? fields "name", ← Value.optional read fields part)
  return (← Value.optional (Value.list? entry) fields name).getD []

def cluster? (value : Value) : Option ClusterAddress := do
  let fields ← value.fields?
  let _ ← flag? fields "insecure-skip-tls-verify"
  let _ ← flag? fields "disable-compression"
  let _ ← extensions? fields
  return {
    server := ← text? fields "server"
    authority := ← text? fields "certificate-authority-data"
    authorityFile := ← text? fields "certificate-authority"
    proxy := ← text? fields "proxy-url"
    serverName := ← text? fields "tls-server-name" }

/-- Reads the service that grants credentials. -/
def provider? (value : Value) : Option (String × List (String × String)) := do
  let fields ← value.fields?
  let settings ← match fields.lookup "config" with
    | some settings => dictionary? settings
    | none => some []
  return (← required Value.string? fields "name", settings)

/-- Reads when a program may ask questions. -/
def mode? (value : Value) : Option Unit :=
  let isMode (name : String) : Bool := ["Never", "IfAvailable", "Always"].contains name
  match value with
  | .string name => if isMode name then some () else none
  | .tagged name .null => if isMode name then some () else none
  | _ => none

/-- Reads how to ask a program. -/
def program? (value : Value) : Option Unit := do
  let fields ← value.fields?
  let _ ← text? fields "apiVersion"
  let _ ← text? fields "command"
  let _ ← texts? fields "args"
  let _ ← Value.optional (Value.list? dictionary?) fields "env"
  let _ ← Value.optional mode? fields "interactiveMode"
  match fields.lookup "provideClusterInfo" with
  | some value => (value.bool?).map fun _ => ()
  | none => some ()

def user? (value : Value) : Option Credentials := do
  let fields ← value.fields?
  return {
    userName := ← text? fields "username"
    password := ← text? fields "password"
    token := ← text? fields "token"
    tokenFile := ← text? fields "tokenFile"
    certificate := ← text? fields "client-certificate-data"
    certificateFile := ← text? fields "client-certificate"
    key := ← text? fields "client-key-data"
    keyFile := ← text? fields "client-key"
    actsAs := ← text? fields "as"
    actsIn := ← texts? fields "as-groups"
    provider := ← Value.optional provider? fields "auth-provider"
    hasProgram := (← Value.optional program? fields "exec").isSome }

def context? (value : Value) : Option ClusterContext := do
  let fields ← value.fields?
  let _ ← text? fields "namespace"
  let _ ← extensions? fields
  return ⟨← required Value.string? fields "cluster", ← text? fields "user"⟩

def preferences? (value : Value) : Option Unit := do
  let fields ← value.fields?
  let _ ← flag? fields "colors"
  extensions? fields

/-- Reads a document. -/
def ofValue? (value : Value) : Option Kubeconfig := do
  let fields ← value.fields?
  let _ ← Value.optional preferences? fields "preferences"
  let _ ← extensions? fields
  return {
    kind := ← text? fields "kind"
    version := ← text? fields "apiVersion"
    currentContext := ← text? fields "current-context"
    clusters := ← named? "cluster" cluster? fields "clusters"
    users := ← named? "user" user? fields "users"
    contexts := ← named? "context" context? fields "contexts" }

/-- Adds what does not have the name of something that is already there. -/
def addNew {α : Type} (named others : List (String × α)) : List (String × α) :=
  named ++ others.filter fun other => !named.any (·.1 == other.1)

/-- Whether two documents do not say different things about what they are. -/
def agree (first second : Option String) : Bool :=
  first.isNone || second.isNone || first == second

/-- Joins two documents. What the first says counts. -/
def join? (config next : Kubeconfig) : Option Kubeconfig :=
  if agree config.kind next.kind && agree config.version next.version then
    some {
      kind := config.kind <|> next.kind
      version := config.version <|> next.version
      currentContext := config.currentContext <|> next.currentContext
      clusters := addNew config.clusters next.clusters
      users := addNew config.users next.users
      contexts := addNew config.contexts next.contexts }
  else none

/-- Reads the text of a file. A mark of byte order before it is passed. -/
def ofText? (text : String) : Option Kubeconfig := do
  let text := match text.toList with
    | '\ufeff' :: rest => .ofList rest
    | _ => text
  let configs ← (← Yaml.values? text).mapM ofValue?
  match configs with
  | [] => return {}
  | first :: rest => rest.foldlM join? first

/-- The text of a file that selects a cluster without credentials. -/
def written (server : String) : String :=
  "apiVersion: v1\nkind: Config\ncurrent-context: c\nclusters:\n- name: k\n  cluster:\n" ++
  "    server: " ++ server ++ "\ncontexts:\n- name: c\n  context:\n    cluster: k\n" ++
  "    user: u\nusers:\n- name: u\n  user: \x7b\x7d\n"

end Kubeconfig

end ServiceRecords
