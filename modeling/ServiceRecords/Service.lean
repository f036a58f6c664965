import ServiceRecords.Key
import ServiceRecords.Moment

set_option autoImplicit false

/-!
Services and their specifications: which endpoints are to be resolvable below which zone.
-/

namespace ServiceRecords

/-- The wire protocol of an endpoint. -/
inductive Protocol where
  | grpc
  | http
  | tcp
  | udp
  deriving DecidableEq, Repr

namespace Protocol

def all : List Protocol := [grpc, http, tcp, udp]

def name : Protocol → String
  | grpc => "grpc"
  | http => "http"
  | tcp => "tcp"
  | udp => "udp"

def ofName? (name : String) : Option Protocol := all.find? (·.name == name)

@[simp] theorem ofName?_name (protocol : Protocol) : ofName? protocol.name = some protocol := by
  cases protocol <;> decide

end Protocol

structure Endpoint where
  name : String
  host : String
  port : UInt16
  protocol : Protocol := .grpc
  deriving DecidableEq, Repr

/-- What a service asks to have published. -/
structure Spec where
  zone : String
  endpoints : List Endpoint := []
  /-- Seconds that resolvers may keep an answer -/
  ttl : Option UInt32 := none
  deriving DecidableEq, Repr

structure Metadata where
  name : Option String := none
  ns : Option String := none
  /-- What the name of a nameless service begins with -/
  generateName : Option String := none
  /-- When deletion was asked for -/
  deletion : Option Moment := none
  deriving DecidableEq, Repr

structure Service where
  metadata : Metadata
  spec : Spec
  deriving DecidableEq, Repr

namespace Service

def key (service : Service) : Key where
  ns := service.metadata.ns.getD ""
  name := (service.metadata.name <|> service.metadata.generateName).getD ""

def isDeleting (service : Service) : Bool := service.metadata.deletion.isSome

end Service

end ServiceRecords
