import ServiceRecords.Metrics
import ServiceRecords.Web.HttpAddress

set_option autoImplicit false

/-!
The health endpoint: whether the controller has started, and its measurements.
-/

namespace ServiceRecords

namespace Metrics

/-- A count of nanoseconds in seconds. -/
def secondsText (nanoseconds : Nat) : String :=
  let fraction := (Nat.toDigits 10 (nanoseconds % 1000000000))
  let digits := List.replicate (9 - fraction.length) '0' ++ fraction
  (nanoseconds / 1000000000).repr ++ "." ++ .ofList digits

def Sample.text (sample : Sample) : String :=
  let value := if sample.name.endsWith "_sum" then secondsText sample.value else sample.value.repr
  namePrefix ++ sample.identity ++ " " ++ value ++ "\n"

/-- All measurements as a monitoring system reads them. -/
def text (metrics : Metrics) : String :=
  String.join <| metrics.families.map fun family =>
    let name := namePrefix ++ family.name
    "# HELP " ++ name ++ " " ++ family.help ++ "\n# TYPE " ++ name ++ " " ++ family.type ++ "\n" ++
      String.join ((family.buckets ++ family.samples).map Sample.text)

end Metrics

namespace Health

structure Response where
  status : Nat
  contentType : Option String := none
  /-- The methods that the path allows, if the method of the request is none of them -/
  allow : Option String := none
  body : String := ""
  deriving DecidableEq, Repr

/-- The path that a request asks for, if its target can be read. -/
def path (target : String) : String :=
  match Web.HttpAddress.ofText? target with
  | some address => address.path
  | none => ""

/-- What a path shows. -/
def page? (isStarted : Bool) (metrics : Metrics) (path : String) : Option Response :=
  if path = "/healthz" then
    some
      { status := if isStarted then 200 else 503
        contentType := some "text/plain; charset=utf-8"
        body := if isStarted then "ok" else "starting" }
  else if path = "/metrics" then
    some
      { status := 200, contentType := some "text/plain; version=0.0.4", body := metrics.text }
  else none

/-- The answer to a request. Pages can be read, with or without their bodies. -/
def respond (isStarted : Bool) (metrics : Metrics) (method target : String) : Response :=
  match page? isStarted metrics (path target) with
  | none => { status := 404 }
  | some page =>
    if method = "GET" then page
    else if method = "HEAD" then { page with body := "" }
    else { status := 405, allow := some "GET,HEAD" }

end Health

end ServiceRecords
