set_option autoImplicit false

/-!
DNS labels. A label has 1 to 63 bytes, consists of letters, digits, hyphens and underscores, and
neither begins nor ends with a hyphen. Labels are compared and stored in lower case.
-/

namespace ServiceRecords.Dns

/-- The first rule that a text breaks as a label. -/
inductive LabelFault where
  | empty
  | tooLong
  | foreignCharacter
  | edgeHyphen
  deriving DecidableEq, Repr

namespace LabelFault

def reason : LabelFault → String
  | empty => "label must not be empty"
  | tooLong => "label exceeds 63 characters"
  | foreignCharacter => "only letters, digits, '-' and '_' are allowed"
  | edgeHyphen => "label must not start or end with '-'"

end LabelFault

namespace Label

def maxBytes : Nat := 63

def isCharacter (c : Char) : Bool := c.isAlphanum || c == '-' || c == '_'

def fault? (text : String) : Option LabelFault :=
  if text.toList = [] then some .empty
  else if text.utf8ByteSize > maxBytes then some .tooLong
  else if !text.toList.all isCharacter then some .foreignCharacter
  else if text.toList.head? = some '-' ∨ text.toList.getLast? = some '-' then some .edgeHyphen
  else none

end Label

end ServiceRecords.Dns
