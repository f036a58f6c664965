import ServiceRecords.Unicode.CombiningClass
import ServiceRecords.Unicode.Composite

set_option autoImplicit false

/-!
The composed form of a text: every composite is taken apart, the marks after a character are put
in the order of their classes, and what can be put together is put together.
-/

namespace ServiceRecords.Unicode

/-- A character taken apart; no composite holds others more than `depth` deep. -/
def decompose (depth : Nat) (c : Char) : List Char :=
  match depth, parts? c with
  | depth + 1, some (first, second) => decompose depth first ++ [second]
  | _, _ => [c]

/-- Puts a character before a text in which marks are in order, behind the marks that go first. -/
def putInOrder (c : Char) : List Char → List Char
  | [] => [c]
  | mark :: rest =>
    if 0 < combiningClass mark ∧ combiningClass mark < combiningClass c then
      mark :: putInOrder c rest
    else c :: mark :: rest

/-- What `c` makes with the base, if no mark between them stands in its way. -/
def joined? (base : Char) (between : List Char) (c : Char) : Option Char :=
  match between.getLast? with
  | some mark => if combiningClass mark < combiningClass c then composite? base c else none
  | none => composite? base c

/-- Composes the base with what follows it; `between` stays between the two. -/
def composeAfter (base : Char) (between : List Char) : List Char → List Char
  | [] => base :: between
  | c :: rest =>
    match joined? base between c with
    | some whole => composeAfter whole between rest
    | none =>
      if combiningClass c = 0 then base :: between ++ composeAfter c [] rest
      else composeAfter base (between ++ [c]) rest

/-- Composes a text, whose first characters may be marks on nothing. -/
def compose : List Char → List Char
  | [] => []
  | c :: rest => if combiningClass c = 0 then composeAfter c [] rest else c :: compose rest

/-- The composed form of a text. -/
def composed (text : List Char) : List Char :=
  compose ((text.flatMap (decompose 4)).foldr putInOrder [])

end ServiceRecords.Unicode
