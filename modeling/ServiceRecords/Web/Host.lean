import ServiceRecords.Web.Domain.Name
import ServiceRecords.Web.Ipv6

set_option autoImplicit false

/-!
Hosts of web addresses. A host is an IPv6 address in brackets, an IPv4 address, or a domain name,
which may hold percent escapes and characters outside ASCII.
-/

namespace ServiceRecords.Web

/-- Why a text is no web address. -/
inductive UrlFault where
  | noScheme
  | emptyHost
  | invalidPort
  | invalidIpv4
  | invalidIpv6
  | invalidDomain
  | invalidCharacter
  deriving DecidableEq, Repr

namespace UrlFault

def reason : UrlFault → String
  | noScheme => "relative URL without a base"
  | emptyHost => "empty host"
  | invalidPort => "invalid port number"
  | invalidIpv4 => "invalid IPv4 address"
  | invalidIpv6 => "invalid IPv6 address"
  | invalidDomain => "invalid international domain name"
  | invalidCharacter => "invalid domain character"

end UrlFault

namespace Host

/-- The bytes of a text with its percent escapes replaced by what they stand for. -/
def unescape : List Char → List UInt8
  | '%' :: high :: low :: rest =>
    match Text.digitValue? high, Text.digitValue? low with
    | some h, some l => UInt8.ofNat (16 * h + l) :: unescape rest
    | _, _ => '%'.toUInt8 :: unescape (high :: low :: rest)
  | c :: rest => (String.singleton c).toUTF8.toList ++ unescape rest
  | [] => []

/-- The labels of the domain name that a text with escapes stands for. -/
def domain? (text : List Char) : Option (List (List Char)) := do
  let name ← String.fromUTF8? (ByteArray.mk (unescape text).toArray)
  Domain.ofText? name.toList

/-- The text between brackets, for a text that begins with one. -/
def bracketed? (text : List Char) : Option (List Char) :=
  match text with
  | '[' :: rest => some rest
  | _ => none

def ipv6Fault? (afterBracket : List Char) : Option UrlFault :=
  if afterBracket.getLast? = some ']' ∧ Ipv6.isAddress afterBracket.dropLast then none
  else some .invalidIpv6

/-- What is wrong with a host of the web. -/
def fault? (text : List Char) : Option UrlFault :=
  match bracketed? text with
  | some rest => ipv6Fault? rest
  | none =>
    match domain? text with
    | none => some .invalidDomain
    | some labels =>
      let name := ['.'].intercalate labels
      if name.isEmpty then some .emptyHost
      else if Ipv4.isMeant name && !Ipv4.isAddress name then some .invalidIpv4
      else none

/-- Characters that even a host with a meaning of its own cannot hold. -/
def neverAllowed : List Char :=
  ['\x00', '\t', '\n', '\r', ' ', '#', '/', ':', '<', '>', '?', '@', '[', '\\', ']', '^', '|']

/-- What is wrong with a host whose meaning only its scheme knows. -/
def looseFault? (text : List Char) : Option UrlFault :=
  match bracketed? text with
  | some rest => ipv6Fault? rest
  | none => if text.any neverAllowed.contains then some .invalidCharacter else none

end Host

end ServiceRecords.Web
