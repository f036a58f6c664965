import Std.Data.ExtTreeMap
import ServiceRecords.Store.Error
import ServiceRecords.Text.Segments

set_option autoImplicit false

/-!
A key-value store in memory. It serves reads, writes and listings in key order, can be told to
fail some of its calls, and remembers the calls it received.
-/

namespace ServiceRecords

namespace Store

abbrev Contents := Std.ExtTreeMap String String

/-- The stored keys that begin with `start`, with their values, in key order. -/
def listing (contents : Contents) (start : String) : List (String × String) :=
  contents.toList.filter fun (key, _) => (Text.after? start key).isSome

inductive Call where
  | list (directory : String)
  | put (key value : String)
  | delete (key : String)
  deriving DecidableEq, Repr

namespace Call

def operation : Call → String
  | list _ => "list"
  | put .. => "put"
  | delete _ => "delete"

def isWrite : Call → Bool
  | list _ => false
  | put .. => true
  | delete _ => true

/-- The key or directory that the call is about. -/
def target : Call → String
  | list directory => directory
  | put key _ => key
  | delete key => key

/-- What the contents are after the call has taken effect. -/
def apply : Call → Contents → Contents
  | list _, contents => contents
  | put key value, contents => contents.insert key value
  | delete key, contents => contents.erase key

end Call

inductive FailureMode where
  | unavailable
  | rejected
  deriving DecidableEq, Repr

/-- Which calls fail: those of certain operations, after some more of them have succeeded. -/
structure Fault where
  mode : FailureMode
  /-- The operations that fail; all of them if there is none -/
  operations : List String
  spared : Nat
  deriving DecidableEq, Repr

namespace Fault

def concerns (fault : Fault) (call : Call) : Bool :=
  fault.operations.isEmpty || fault.operations.contains call.operation

def error (fault : Fault) (call : Call) : StoreError :=
  match fault.mode with
  | .unavailable => .unavailable call.operation call.target "connection refused"
  | .rejected => .rejected call.operation call.target "permission denied"

end Fault

/-- The contents of a store, its planned failures, and its calls, last first, with whether each
of them succeeded. -/
structure Memory where
  contents : Contents := ∅
  fault : Option Fault := none
  calls : List (Call × Bool) := []

namespace Memory

def seed (memory : Memory) (key value : String) : Memory :=
  { memory with contents := memory.contents.insert key value }

def unseed (memory : Memory) (key : String) : Memory :=
  { memory with contents := memory.contents.erase key }

/-- Lets a call fail, or applies it. -/
def call (memory : Memory) (call : Call) : Except StoreError Unit × Memory :=
  let succeed (memory : Memory) : Except StoreError Unit × Memory :=
    (.ok (), { memory with
      contents := call.apply memory.contents, calls := (call, true) :: memory.calls })
  match memory.fault with
  | none => succeed memory
  | some fault =>
    if fault.concerns call then
      match fault.spared with
      | 0 => (.error (fault.error call), { memory with calls := (call, false) :: memory.calls })
      | spared + 1 => succeed { memory with fault := some { fault with spared } }
    else succeed memory

/-- The calls in the order in which they came. -/
def history (memory : Memory) : List (Call × Bool) := memory.calls.reverse

end Memory

end Store

end ServiceRecords
