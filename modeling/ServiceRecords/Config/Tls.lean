import ServiceRecords.Config.Error
import ServiceRecords.Text.Segments

set_option autoImplicit false

/-!
The credentials for calls to the store. They are read from three files, of which each has to
hold a text that looks like a credential; nothing else is checked before the first call.
-/

namespace ServiceRecords.Config

/-- Reads the bytes of a file. -/
abbrev ReadFile := String → Except FileFault (List UInt8)

/-- How every credential begins. -/
def pemMark : List UInt8 := "-----BEGIN ".toUTF8.toList

def holdsPem (bytes : List UInt8) : Bool := Text.occurs pemMark bytes

/-- The bytes of one credential. -/
def credential (read : ReadFile) (file : Credential) (path : Option String) :
    Except ConfigError (List UInt8) :=
  match path with
  | none => .error (.missingFile file)
  | some path =>
    match read path with
    | .error fault => .error (.unreadableFile file path fault)
    | .ok bytes => if holdsPem bytes then .ok bytes else .error (.invalidPem file path)

structure Tls where
  key : List UInt8
  certificate : List UInt8
  authority : List UInt8
  deriving DecidableEq, Repr

namespace Tls

/-- Reads the three files in the order key, certificate, authority. -/
def load (read : ReadFile) (key certificate authority : Option String) :
    Except ConfigError Tls := do
  let key ← credential read .key key
  let certificate ← credential read .certificate certificate
  let authority ← credential read .authority authority
  return { key, certificate, authority }

/-- A description that gives nothing away. -/
def summary (tls : Tls) : String :=
  "TlsMaterial \x7b ca_pem: " ++ tls.authority.length.repr ++ " bytes, cert_pem: " ++
    tls.certificate.length.repr ++ " bytes, key_pem: \"<redacted>\" \x7d"

end Tls

end ServiceRecords.Config
