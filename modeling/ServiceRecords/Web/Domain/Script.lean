import ServiceRecords.Text.Blank
import ServiceRecords.Unicode.CombiningClass
import ServiceRecords.Unicode.Direction
import ServiceRecords.Unicode.Joining
import ServiceRecords.Unicode.Mark

set_option autoImplicit false

/-!
Rules for labels in scripts of the world. Characters that join or part letters stand only where
they make a difference, and the directions of the characters of a label leave no doubt about their
order.
-/

namespace ServiceRecords.Web.Domain

open Unicode (Direction)

def nonJoiner : Char := '\u200c'

def joiner : Char := '\u200d'

/-- Whether a joiner or another character can stand between others, of which those before are in
reverse order. Both joiners can follow a virama; the one that parts letters can also stand where
two letters would join. -/
def canStand (before : List Char) (c : Char) (rest : List Char) : Bool :=
  if c = joiner || c = nonJoiner then
    before.head?.any Unicode.isVirama ||
      (c = nonJoiner && (before.find? (!Unicode.isTransparent ·)).any Unicode.joinsAfter &&
        (rest.find? (!Unicode.isTransparent ·)).any Unicode.joinsBefore)
  else true

/-- Whether every character of a label can stand where it is, after those before. -/
def isJoined (before : List Char) : List Char → Bool
  | [] => true
  | c :: rest => canStand before c rest && isJoined (c :: before) rest

/-- Whether characters with this direction make a name one with directions. -/
def isTurned : Direction → Bool
  | .rightToLeft | .arabicLetter | .arabicNumber => true
  | _ => false

/-- Directions that can occur in labels of both directions. -/
def isNeutral : Direction → Bool
  | .europeanNumber | .europeanSeparator | .commonSeparator | .europeanTerminator
  | .otherNeutral | .boundaryNeutral | .nonspacingMark => true
  | _ => false

/-- Whether the directions in a label after its first character, which is a letter, are those of
a label that is read from left to right. -/
def runsRight (rest : List Direction) : Bool :=
  rest.all (fun direction => isNeutral direction || direction = .leftToRight) &&
    rest.getLast?.all fun last => last = .leftToRight || last = .europeanNumber

/-- The same for a label that is read from right to left: it holds digits of one kind only. -/
def runsLeft (rest : List Direction) : Bool :=
  rest.all (fun direction => isNeutral direction || isTurned direction) &&
    rest.getLast?.all (fun last => isTurned last || last = .europeanNumber) &&
    !(rest.contains .europeanNumber && rest.contains .arabicNumber)

/-- Whether the order of the characters of a label is clear in a name with directions. -/
def isOrdered (label : List Char) : Bool :=
  match label.map Direction.of with
  | [] => true
  | first :: rest =>
    let rest := (rest.reverse.dropWhile (· = .nonspacingMark)).reverse
    match first with
    | .leftToRight => runsRight rest
    | .rightToLeft | .arabicLetter => runsLeft rest
    | _ => false

end ServiceRecords.Web.Domain
