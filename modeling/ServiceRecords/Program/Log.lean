set_option autoImplicit false

/-!
The log of the program. A line has a level, a message, and perhaps further values, and belongs to
a part of the program.
-/

namespace ServiceRecords

inductive LogLevel where
  | error
  | warn
  | info
  | debug
  | trace
  deriving DecidableEq, Repr

namespace LogLevel

def rank : LogLevel → Nat
  | error => 1
  | warn => 2
  | info => 3
  | debug => 4
  | trace => 5

def name : LogLevel → String
  | error => "ERROR"
  | warn => "WARN"
  | info => "INFO"
  | debug => "DEBUG"
  | trace => "TRACE"

end LogLevel

structure LogLine where
  level : LogLevel
  message : String
  /-- The part of the program that writes the line -/
  target : String := "rpc_controller"
  /-- The names of the values that stand beside the message -/
  values : List String := []
  deriving DecidableEq, Repr

namespace LogLine

/-- The names of all that the line holds. -/
def fields (line : LogLine) : List String := "message" :: line.values

/-- A line that a part of the program named `part` writes. -/
def within (part : String) (line : LogLine) : LogLine :=
  { line with target := line.target ++ "::" ++ part }

end LogLine

end ServiceRecords
