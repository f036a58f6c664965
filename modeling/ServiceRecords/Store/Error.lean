set_option autoImplicit false

/-!
Failed store calls. A call that the store could not serve may succeed later; a call that the
store refused never will.
-/

namespace ServiceRecords

inductive StoreError where
  | unavailable (operation key reason : String)
  | rejected (operation key reason : String)
  deriving DecidableEq, Repr

namespace StoreError

def message : StoreError → String
  | unavailable operation key reason =>
    "key-value store unavailable during " ++ operation ++ " of '" ++ key ++ "': " ++ reason
  | rejected operation key reason =>
    "key-value store rejected " ++ operation ++ " of '" ++ key ++ "': " ++ reason

def isRetryable : StoreError → Bool
  | unavailable .. => true
  | rejected .. => false

/-- The name of the kind of error in counts. -/
def category : StoreError → String
  | unavailable .. => "store_unavailable"
  | rejected .. => "store_rejected"

end StoreError

/-- What a store client reports when a call fails. -/
inductive ClientError where
  | invalidArguments (text : String)
  | watch (text : String)
  | election (text : String)
  | lease (text : String)
  | endpoint (text : String)
  | io (text : String)
  | invalidText
  /-- The server answered with a status code. -/
  | status (code : Int)
  deriving DecidableEq, Repr

namespace ClientError

/-- Invalid argument, permission denied, failed precondition, out of range, unauthenticated. -/
def permanentCodes : List Int := [3, 7, 9, 11, 16]

def isPermanentCode (code : Int) : Bool := permanentCodes.contains code

def isPermanent : ClientError → Bool
  | invalidArguments _ => true
  | invalidText => true
  | status code => isPermanentCode code
  | _ => false

def reason : ClientError → String
  | invalidArguments text => "invalid arguments: " ++ text
  | watch text => "watch error: " ++ text
  | election text => "election error: " ++ text
  | lease text => "lease keep alive error: " ++ text
  | endpoint text => "endpoint error: " ++ text
  | io text => "io error: " ++ text
  | invalidText => "utf8 error: invalid utf-8 sequence of 1 bytes from index 1"
  | status code => "status " ++ toString code

/-- The store error of a call that failed with the client error. -/
def classify (operation key : String) (error : ClientError) : StoreError :=
  if error.isPermanent then .rejected operation key error.reason
  else .unavailable operation key error.reason

end ClientError

end ServiceRecords
