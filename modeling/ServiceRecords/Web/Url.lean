import ServiceRecords.Web.Host

set_option autoImplicit false

/-!
Web addresses as browsers read them: the scheme and the host of an address, or what is wrong with
it. Whatever follows the host is accepted.
-/

namespace ServiceRecords.Web

structure Url where
  /-- In lower case -/
  scheme : String
  /-- As written; there may be none -/
  host : String
  deriving DecidableEq, Repr

namespace Url

/-- Schemes that take a host and allow backslashes for slashes. -/
def webSchemes : List String := ["http", "https", "ws", "wss", "ftp"]

def isSchemeChar (c : Char) : Bool := c.isAlphanum || c == '+' || c == '-' || c == '.'

/-- The text without controls and spaces at its ends, and without tabs and line breaks. -/
def clean (text : String) : List Char :=
  (Text.dropEnds (· ≤ ' ') text.toList).filter fun c => c != '\t' && c != '\n' && c != '\r'

/-- The scheme and what follows its colon. -/
def splitScheme? (text : List Char) : Option (String × List Char) :=
  match text.head?, text.dropWhile isSchemeChar with
  | some first, ':' :: rest =>
    if first.isAlpha then some ((String.ofList (text.takeWhile isSchemeChar)).toLower, rest)
    else none
  | _, _ => none

/-- The host, up to a colon outside of brackets, and what follows it. -/
def splitHost (isInside : Bool) : List Char → List Char × List Char
  | [] => ([], [])
  | c :: rest =>
    if c = ':' ∧ !isInside then ([], c :: rest)
    else
      let (host, after) := splitHost (c == '[' || (isInside && c != ']')) rest
      (c :: host, after)

/-- The part before the last `@`, if there is one, and the part after it. -/
def splitUser (authority : List Char) : Option (List Char) × List Char :=
  let host := (authority.reverse.takeWhile (· != '@')).reverse
  if host.length = authority.length then (none, host)
  else (some (authority.take (authority.length - host.length - 1)), host)

def isPort (text : List Char) : Bool :=
  match Text.number? 10 text with
  | some port => port ≤ 65535
  | none => false

/-- What is wrong with a host and a port. -/
def hostAndPortFault? (isWeb : Bool) (host after : List Char) : Option UrlFault :=
  if host.isEmpty && (isWeb || !after.isEmpty) then some .emptyHost
  else
    match if isWeb then Host.fault? host else Host.looseFault? host with
    | some fault => some fault
    | none => if isPort (after.drop 1) then none else some .invalidPort

/-- Reads what follows the two slashes. -/
def readAuthority (isWeb : Bool) (scheme : String) (text : List Char) : Except UrlFault Url :=
  let ends (c : Char) : Bool := c == '/' || c == '?' || c == '#' || (isWeb && c == '\\')
  let authority := text.takeWhile (!ends ·)
  let (user, place) := splitUser authority
  let (host, after) := splitHost false place
  let hasUser := user.getD [] != [] && user != some [':']
  let isCutShort := user == some [] && place.isEmpty && authority.length < text.length
  if isCutShort then .error .emptyHost
  else
    match hostAndPortFault? isWeb host after with
    | some fault => .error fault
    | none =>
      if host.isEmpty && hasUser then .error .emptyHost
      else .ok ⟨scheme, .ofList host⟩

/-- Whether a text is a drive as in old file systems, which is no host. -/
def isDrive : List Char → Bool
  | [letter, mark] => letter.isAlpha && (mark == ':' || mark == '|')
  | _ => false

/-- Reads what follows the colon of the address of a file. -/
def readFile (text : List Char) : Except UrlFault Url :=
  let isSlash (c : Char) : Bool := c == '/' || c == '\\'
  match text with
  | first :: second :: rest =>
    if isSlash first && isSlash second then
      let host := rest.takeWhile fun c => !(isSlash c || c == '?' || c == '#')
      if host.isEmpty || isDrive host then .ok ⟨"file", ""⟩
      else
        match Host.fault? host with
        | some fault => .error fault
        | none => .ok ⟨"file", .ofList host⟩
    else .ok ⟨"file", ""⟩
  | _ => .ok ⟨"file", ""⟩

def read (text : String) : Except UrlFault Url :=
  match splitScheme? (clean text) with
  | none => .error .noScheme
  | some (scheme, rest) =>
    if scheme = "file" then readFile rest
    else if webSchemes.contains scheme then
      readAuthority true scheme (rest.dropWhile fun c => c == '/' || c == '\\')
    else
      match rest with
      | '/' :: '/' :: rest => readAuthority false scheme rest
      | _ => .ok ⟨scheme, ""⟩

end Url

end ServiceRecords.Web
