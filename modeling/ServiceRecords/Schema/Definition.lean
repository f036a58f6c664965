import ServiceRecords.Json.Value
import ServiceRecords.Schema.Pattern
import ServiceRecords.Service

set_option autoImplicit false

/-!
How services are made known to a cluster: the definition of their kind, with a schema that every
service has to satisfy before the controller sees it.
-/

namespace ServiceRecords.Schema

open Json

def str (text : String) : Value := .ofString text

def strings (texts : List String) : Value := .array (texts.map str)

/-- A whole number that is written with a fraction. -/
def bound (n : Nat) : Value := .number { Number.ofNat n with fraction := some ['0'] }

def described (description : String) (members : List (String × Value)) : Value :=
  .ofMembers (("description", str description) :: members)

def type (name : String) : String × Value := ("type", str name)

/-- The members of the schema of an object. -/
def record (required : List String) (properties : List (String × Value)) :
    List (String × Value) :=
  [("properties", .ofMembers properties), ("required", strings required), type "object"]

def endpointSchema : Value :=
  described "A single addressable endpoint of an RPC service." <|
    record ["host", "name", "port"]
      [("host", described "IP address or hostname of the endpoint." [type "string"]),
       ("name", described
         "Endpoint name, unique within the service. Becomes the last key segment."
         [type "string"]),
       ("port", described "Port the endpoint listens on."
         [("format", str "uint16"), ("maximum", bound (UInt16.size - 1)), ("minimum", bound 0),
          type "integer"]),
       ("protocol", described "Wire protocol spoken by the endpoint."
         [("default", str Protocol.grpc.name), ("enum", strings (Protocol.all.map (·.name))),
          type "string"])]

def zoneDescription : String :=
  "DNS zone (or subdomain) the service is published under.\n\nExamples: \"rpc.example.com\", " ++
  "\"svc.cluster.local\"\nThe published name will be: " ++
  "\x7bname\x7d.\x7bnamespace\x7d.\x7bzone\x7d"

def specSchema : Value :=
  described "Desired DNS publication of an RPC service." <|
    record ["zone"]
      [("endpoints", described "Named endpoints serving this RPC service."
         [("default", .array []), ("items", endpointSchema), type "array"]),
       ("ttl", described
         "TTL in seconds handed to resolvers. Uses the resolver default if not specified."
         [("format", str "uint32"), ("minimum", bound 0), ("nullable", .boolean true),
          type "integer"]),
       ("zone", described zoneDescription
         [("pattern", str zone.wholeText), type "string"])]

def serviceSchema : Value :=
  described ("RpcService publishes a set of RPC endpoints as DNS records. The controller " ++
      "writes one etcd entry per endpoint under <name>.<namespace>.<zone> for the CoreDNS " ++
      "etcd plugin.") <|
    record ["spec"] [("spec", specSchema)] ++ [("title", str "RpcService")]

def group : String := "rpc.firestoned.io"

/-- The definition of the kind of services. -/
def definition : Value :=
  .ofMembers
    [("apiVersion", str "apiextensions.k8s.io/v1"),
     ("kind", str "CustomResourceDefinition"),
     ("metadata", .ofMembers [("name", str ("rpcservices." ++ group))]),
     ("spec", .ofMembers
       [("group", str group),
        ("names", .ofMembers
          [("categories", strings []), ("kind", str "RpcService"),
           ("plural", str "rpcservices"), ("shortNames", strings ["rpcsvc"]),
           ("singular", str "rpcservice")]),
        ("scope", str "Namespaced"),
        ("versions", .array [.ofMembers
          [("additionalPrinterColumns", .array []), ("name", str "v1alpha1"),
           ("schema", .ofMembers [("openAPIV3Schema", serviceSchema)]),
           ("served", .boolean true), ("storage", .boolean true),
           ("subresources", .ofMembers [])]])])]

/-! ### The generated file -/

def fileName : String := "rpcservices.crd.yaml"

/-- What stands above the definition in the generated file. -/
def fileHeader : String :=
  String.join <| (["Copyright (c) 2025 Erick Bourgeois, firestoned",
    "SPDX-License-Identifier: MIT", "", "This file is AUTO-GENERATED from src/crd.rs",
    "DO NOT EDIT MANUALLY - Run `cargo run --bin crdgen` to regenerate", ""].map fun line =>
      (if line = "" then "#" else "# " ++ line) ++ "\n")

/-- The generated file; the definition is written as JSON, which YAML includes. -/
def fileText : String := fileHeader ++ definition.text ++ "\n"

/-- What the generator reports when it is done. -/
def report : String :=
  "Generating CRD YAML from src/crd.rs...\n  ✓ Generated " ++ fileName ++
  "\n✓ Successfully generated CRD YAML in deploy/crds/\n\nNext steps:\n" ++
  "  1. Review the generated file\n  2. Deploy with: kubectl apply -f deploy/crds/\n"

end ServiceRecords.Schema
