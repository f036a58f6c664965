import ServiceRecords.Record.Layout

set_option autoImplicit false

/-!
The writes that bring stored entries in line with the desired ones. An entry that already reads
as the desired one is left alone however it is written, and only owned entries are deleted.
-/

namespace ServiceRecords

/-- Keys with the texts to put there, and keys to delete. -/
structure Changes where
  puts : List (String × String)
  deletes : List String
  deriving DecidableEq, Repr

namespace Changes

/-- The last value that a listing gives for a key. -/
def valueOf? (current : List (String × String)) (key : String) : Option String :=
  current.reverse.lookup key

/-- Whether the listing holds a text for the key that reads as the entry. -/
def holds (current : List (String × String)) (key : String) (entry : Entry) : Bool :=
  match valueOf? current key with
  | some value => Entry.ofText? value == some entry
  | none => false

def between (layout : Layout) (desired : Std.ExtTreeMap String Entry)
    (current : List (String × String)) : Changes where
  puts := (desired.toList.filter fun (key, entry) => !holds current key entry).map
    fun (key, entry) => (key, entry.text)
  deletes := (current.filter fun (key, value) =>
    !desired.contains key && layout.owns value).map (·.1)

end Changes

end ServiceRecords
