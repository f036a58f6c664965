import ServiceRecords.Json.Value
import ServiceRecords.Program.Run

set_option autoImplicit false

/-!
The command line program. It has no transport to a store, so a start that finds nothing wrong
with its configuration ends where the connection would be made.
-/

namespace ServiceRecords.Program

/-- The bytes of a file, or why they cannot be read. -/
def fileBytes (path : String) : IO (Except FileFault (List UInt8)) := do
  try
    return .ok (← IO.FS.readBinFile path).toList
  catch
    | .noFileOrDirectory .. => return .error .absent
    | .inappropriateType .. => return .error .isDirectory
    | _ => return .error .noDirectory

/-- The environment variables that the program looks at. -/
def environmentNames : List String :=
  CommandLine.Setting.all.filterMap (·.environmentName?) ++ ["RUST_LOG", "RUST_LOG_FORMAT"]

def readEnvironment : IO CommandLine.Environment := do
  let values ← environmentNames.filterMapM fun name => do
    return (← IO.getEnv name).map (name, ·)
  return fun name => values.lookup name

/-- The files that the arguments name, with what they hold. -/
def readFiles (arguments : CommandLine.Arguments) :
    IO (List (String × Except FileFault (List UInt8))) :=
  let paths := [arguments.keyFile, arguments.certificateFile, arguments.authorityFile,
    arguments.kubeconfig].filterMap id
  paths.mapM fun path => do return (path, ← fileBytes path)

/-- The world as it is when the program starts. -/
def readWorld (words : List String) : IO World := do
  let environment ← readEnvironment
  let files ← match CommandLine.read environment words with
    | .ok invocation => readFiles (.ofSettings invocation.settings)
    | .error _ => pure []
  let file (path : String) := (files.lookup path).getD (.error .absent)
  return {
    environment
    files := file
    standardCluster := .error .unusableConfig
    acceptsCredentials := fun _ => false }

/-- A log line as the environment wants it. -/
def logText (environment : CommandLine.Environment) (line : LogLine) : String :=
  if ((environment "RUST_LOG_FORMAT").getD "text").toLower = "json" then
    (Json.Value.ofMembers
      [("level", .ofString line.level.name),
       ("fields", .ofMembers [("message", .ofString line.message)])]).text
  else line.level.name ++ " " ++ line.message

end ServiceRecords.Program

open ServiceRecords in
def main (words : List String) : IO UInt32 := do
  let world ← Program.readWorld words
  let report := Program.run world words none
  IO.print report.output
  for line in report.log do
    IO.println (Program.logText world.environment line)
  if let some failure := report.failure then
    IO.eprintln failure.text
  return .ofNat report.exit
