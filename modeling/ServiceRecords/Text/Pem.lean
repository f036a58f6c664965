import ServiceRecords.Text.Base64
import ServiceRecords.Text.Blank

set_option autoImplicit false

/-!
Certificates and keys as texts: sections between two lines that name what they hold, with bytes
in base 64 between. What stands outside of sections means nothing.
-/

namespace ServiceRecords.Text.Pem

/-- Something that a text holds, and what it is called there. -/
structure Section where
  label : String
  bytes : List UInt8
  deriving DecidableEq, Repr

/-- What stands before and after the first occurrence of a text in another. -/
def cutAt? (mark : List Char) : List Char → Option (List Char × List Char)
  | [] => if mark.isEmpty then some ([], []) else none
  | c :: rest =>
    match mark.isPrefixOf? (c :: rest) with
    | some rest => some ([], rest)
    | none => (cutAt? mark rest).map fun (before, after) => (c :: before, after)

/-- The parts of the first section: its label, its content, the label at its end, and what
follows it. -/
def first? (text : List Char) : Option ((List Char × List Char × List Char) × List Char) := do
  let (_, text) ← cutAt? "-----BEGIN ".toList text
  let (label, text) ← cutAt? "-----".toList text
  let (content, text) ← cutAt? "-----END ".toList text
  let (ending, text) ← cutAt? "-----".toList text
  return ((label, content, ending), text)

/-- The lines after the empty one that ends the headers, if there are any. -/
def withoutHeaders (content : List Char) : List Char :=
  match cutAt? "\n\n".toList content, cutAt? "\r\n\r\n".toList content with
  | some (_, rest), _ => rest
  | none, some (_, rest) => rest
  | none, none => content

/-- Reads a section. Both labels are the same. -/
def section? (label content ending : List Char) : Option Section := do
  if label.isEmpty || label != ending then none
  let content := content.dropWhile isBlank
  let lines := (withoutHeaders content).splitOn '\n'
  return ⟨.ofList label, ← Base64.decode? (lines.flatMap (dropEnd isBlank))⟩

/-- The sections of a text, of which there are no more than `limit`. -/
def sections? (limit : Nat) (text : List Char) : Option (List Section) :=
  match limit, first? text with
  | limit + 1, some ((label, content, ending), rest) => do
    return (← section? label content ending) :: (← sections? limit rest)
  | _, _ => some []

/-- The sections of some bytes, if every one is in order. -/
def ofBytes? (bytes : List UInt8) : Option (List Section) :=
  sections? bytes.length (bytes.map fun byte => Char.ofNat byte.toNat)

/-- An element of a certificate: what kind it is of, its content, and what follows it. -/
def element? (bytes : List UInt8) : Option (Nat × List UInt8 × List UInt8) :=
  match bytes with
  | kind :: length :: rest =>
    let count := length.toNat - 0x80
    let (size, rest) :=
      if length.toNat < 0x80 then (length.toNat, rest)
      else ((rest.take count).foldl (fun size byte => 256 * size + byte.toNat) 0, rest.drop count)
    if length.toNat ≠ 0x80 ∧ count ≤ 4 ∧ size ≤ rest.length then
      some (kind.toNat, rest.take size, rest.drop size)
    else none
  | _ => none

/-- Whether bytes have the form of a certificate: a list of a list of statements, a list that says
how it was signed, and the signature. -/
def isCertificate (bytes : List UInt8) : Bool :=
  let parts := do
    let (kind, content, rest) ← element? bytes
    let (first, _, content) ← element? content
    let (second, _, content) ← element? content
    let (third, _, content) ← element? content
    return ([kind, first, second, third], content ++ rest)
  parts == some ([0x30, 0x30, 0x30, 0x03], [])

end ServiceRecords.Text.Pem
