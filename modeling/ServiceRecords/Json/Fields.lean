import ServiceRecords.Json.Value

set_option autoImplicit false

/-!
Records with named fields inside a JSON value. A record is written as an object, or as an array
that holds the fields in their declared order; members with other names are ignored.
-/

namespace ServiceRecords.Json.Value

/-- The value of a name in an object: absent, or present once. A repeated name is refused. -/
def field? (members : List (String × Value)) (name : String) : Option (Option Value) :=
  match members.filter (·.1 == name) with
  | [] => some none
  | [member] => some (some member.2)
  | _ => none

/-- The values of the named fields, one for each name, where `none` is an absent field. -/
def fields? (names : List String) : Value → Option (List (Option Value))
  | .array items =>
    if items.length ≤ names.length then
      some (items.map some ++ List.replicate (names.length - items.length) none)
    else none
  | .object members => do
    let members ← members.mapM fun (name, value) => name.map (·, value)
    names.mapM (field? members)
  | _ => none

def string? : Value → Option String
  | .string text => text
  | _ => none

/-- A whole number below `bound`. -/
def below? (bound : Nat) : Value → Option Nat
  | .number n => n.natural?.filter (· < bound)
  | _ => none

/-- A value that may be null or absent. -/
def optional? {α : Type} (read : Value → Option α) : Option Value → Option (Option α)
  | none => some none
  | some .null => some none
  | some value => (read value).map some

/-- A value that may be absent, but not null, and then is `standard`. -/
def withDefault? {α : Type} (standard : α) (read : Value → Option α) : Option Value → Option α
  | none => some standard
  | some value => read value

end ServiceRecords.Json.Value
