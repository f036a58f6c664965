import ServiceRecords.Web.Ipv6

set_option autoImplicit false

/-!
Names by which a server can prove who it is: domain names with letters and digits, and addresses
of four or eight numbers.
-/

namespace ServiceRecords.Web.ServerName

def isNameChar (c : Char) : Bool := c.isAlphanum || c = '_' || c = '-'

/-- Whether a label of a name is in order: it does not begin or end with a hyphen. -/
def isLabel (label : List Char) : Bool :=
  !label.isEmpty && label.length ≤ 63 && label.all isNameChar &&
    label.head? != some '-' && label.getLast? != some '-'

/-- Whether a text is a domain name. The last label is not a number, and a dot may follow it. -/
def isDomain (text : List Char) : Bool :=
  let labels := text.splitOn '.'
  let labels := if labels.length > 1 && labels.getLast? = some [] then labels.dropLast else labels
  text.length ≤ 253 && labels.all isLabel && !labels.getLast?.any (·.all Char.isDigit)

/-- Whether a server can be known by a name. -/
def isValid (name : String) : Bool :=
  isDomain name.toList || Ipv6.isQuad name.toList || Ipv6.isAddress name.toList

end ServiceRecords.Web.ServerName
