import ServiceRecords.Unicode.Composed
import ServiceRecords.Web.Domain.Mapping
import ServiceRecords.Web.Domain.Script
import ServiceRecords.Web.Punycode

set_option autoImplicit false

/-!
Domain names as people write them. `ofText?` reads the labels of a name: every character is
replaced by what it stands for, labels written with letters and digits only are decoded, and the
rules of the scripts are checked.
-/

namespace ServiceRecords.Web.Domain

/-- Characters of ASCII that mean something else in a web address. -/
def reserved : List Char := ['%', '#', '/', ':', '<', '>', '?', '@', '[', '\\', ']', '^', '|']

/-- Whether a character cannot stand in a name: blanks, controls and reserved ones. -/
def isForbidden (c : Char) : Bool := c.toNat ≤ 0x20 || c.toNat = 0x7F || reserved.contains c

def isPlain (label : List Char) : Bool := label.all (·.toNat < 0x80)

/-- The start of a label that is written with letters and digits only. -/
def encodedMark : List Char := "xn--".toList

/-- Whether a label that was decoded could have been written as it is. -/
def isFaithful (label : List Char) : Bool :=
  label.all (fun c => meaning? c = some [c] && !isForbidden c && c != '.') &&
    Unicode.composed label = label

/-- The label that follows the mark of an encoded one. It does not end with a hyphen, for then
nothing would be encoded. -/
def decoded? (text : List Char) : Option (List Char) :=
  if isPlain text && !text.isEmpty && text.getLast? != some '-' && text.length ≤ 2000 then
    (Punycode.decode? text).filter isFaithful
  else none

/-- Whether a label follows the rules of the scripts and is not too long to be encoded. -/
def isLabel (label : List Char) : Bool :=
  !label.head?.any Unicode.isMark && isJoined [] label &&
    (isPlain label || label.length ≤ 1000)

/-- The label that the characters between two dots stand for. -/
def label? (text : List Char) : Option (List Char) :=
  (if encodedMark.isPrefixOf text then decoded? (text.drop encodedMark.length)
    else some text).filter isLabel

/-- Whether a name holds characters that are written from right to left. -/
def hasDirections (labels : List (List Char)) : Bool :=
  labels.any (·.any fun c => isTurned (.of c))

/-- Whether the order of the characters of a name is clear. -/
def isClear (labels : List (List Char)) : Bool :=
  !hasDirections labels || labels.all isOrdered

/-- The labels of a name whose characters have been replaced by what they stand for. -/
def labels? (name : List Char) : Option (List (List Char)) :=
  if name.any isForbidden then none else ((name.splitOn '.').mapM label?).filter isClear

/-- The labels of a name. -/
def ofText? (text : List Char) : Option (List (List Char)) :=
  (text.mapM meaning?).bind fun meanings => labels? (Unicode.composed meanings.flatten)

end ServiceRecords.Web.Domain
