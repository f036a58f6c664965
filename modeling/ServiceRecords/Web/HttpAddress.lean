import ServiceRecords.Web.Ipv6

set_option autoImplicit false

/-!
Addresses of servers. Other than web addresses they are taken as they are written: an address is
a path, or an authority, or an authority and a path after a scheme.
-/

namespace ServiceRecords.Web

structure HttpAddress where
  scheme : Option String
  /-- The server, perhaps with a user before it and a port after it; there may be none -/
  authority : String
  /-- Without what follows a question mark -/
  path : String
  deriving DecidableEq, Repr

namespace HttpAddress

/-- The characters that can stand in an authority as they are. -/
def isPlain (c : Char) : Bool :=
  c.isAlphanum || "!$&'()*+,-./:;=?@[]_~#".toList.contains c

def isPathChar (c : Char) : Bool :=
  c.toNat ≥ 0x80 || "!$%&'()*+,-./0123456789:;=@[\\]^_|~\"\x7b\x7d".toList.contains c || c.isAlpha

def isQueryChar (c : Char) : Bool :=
  c.toNat ≥ 0x21 && c.toNat ≠ 0x7F && c != '"' && c != '#' && c != '<' && c != '>'

/-- What the check of an authority keeps in mind. -/
structure Check where
  colons : Nat := 0
  hasOpened : Bool := false
  hasClosed : Bool := false
  hasPercent : Bool := false
  endsAtUser : Bool := false

namespace Check

/-- Takes in a character; there is no result if the authority cannot hold it. -/
def take? (check : Check) (c : Char) : Option Check :=
  let check := { check with endsAtUser := c == '@' }
  match c with
  | ':' => if check.colons < 8 then some { check with colons := check.colons + 1 } else none
  | '[' =>
    if check.hasPercent || check.hasOpened then none else some { check with hasOpened := true }
  | ']' =>
    if !check.hasOpened || check.hasClosed then none
    else some { check with hasClosed := true, colons := 0, hasPercent := false }
  | '@' => some { check with colons := 0, hasPercent := false }
  | '%' => some { check with hasPercent := true }
  | c => if isPlain c then some check else none

/-- Whether an authority can end here. -/
def isWhole (check : Check) : Bool :=
  check.hasOpened == check.hasClosed && check.colons ≤ 1 && !check.endsAtUser && !check.hasPercent

end Check

def isAuthority (text : List Char) : Bool :=
  match text.foldlM Check.take? {} with
  | some check => check.isWhole
  | none => false

/-- The path at the start of a text, which goes on with a query or not at all; what follows a
hash is not looked at. -/
def path? (text : List Char) : Option String :=
  let text := text.takeWhile (· != '#')
  let path := text.takeWhile (· != '?')
  if path.all isPathChar && ((text.dropWhile (· != '?')).drop 1).all isQueryChar then
    some (.ofList path)
  else none

def isSchemeChar (c : Char) : Bool := c.isAlphanum || c == '+' || c == '-' || c == '.' || c == '~'

/-- The scheme of an address, if it has one, and what follows the two slashes. -/
def splitScheme? (text : List Char) : Option (String × List Char) :=
  match text.dropWhile isSchemeChar with
  | ':' :: '/' :: '/' :: rest =>
    if text.length > 3 then some (.ofList (text.takeWhile isSchemeChar), rest) else none
  | _ => none

/-- Whether a character ends an authority. -/
def endsAuthority (c : Char) : Bool := c == '/' || c == '?' || c == '#'

/-- Reads an address of at most 65534 bytes, with a scheme of at most 64 characters. -/
def ofText? (address : String) : Option HttpAddress :=
  let text := address.toList
  if address.utf8ByteSize > 65534 then none
  else
    match text with
    | [] => none
    | ['*'] => some ⟨none, "", "*"⟩
    | '/' :: _ => (path? text).map fun path => ⟨none, "", path⟩
    | _ =>
      match splitScheme? text with
      | none =>
        if !text.any endsAuthority && isAuthority text then some ⟨none, address, ""⟩ else none
      | some (scheme, rest) =>
        let authority := rest.takeWhile (!endsAuthority ·)
        if authority.isEmpty || !isAuthority authority || scheme.length > 64 then none
        else
          (path? (rest.dropWhile (!endsAuthority ·))).map fun path =>
            ⟨some scheme, .ofList authority, if path.isEmpty then "/" else path⟩

/-- Whether the text can be the address of a server. -/
def isAddress (address : String) : Bool := (ofText? address).isSome

/-- The server without a user and a port; it keeps its brackets. -/
def host (address : HttpAddress) : String :=
  let text := address.authority.toList
  let place := (text.reverse.takeWhile (· != '@')).reverse
  if place.head? = some '[' then .ofList (place.takeWhile (· != ']') ++ [']'])
  else .ofList (place.takeWhile (· != ':'))

end HttpAddress

end ServiceRecords.Web
