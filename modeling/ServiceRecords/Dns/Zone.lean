import ServiceRecords.Text.Blank
import ServiceRecords.Text.Segments

set_option autoImplicit false

/-!
Zones as people write them. `published` is the part of a zone text that names the zone, and
`normalize` is the form in which two zone texts are compared.
-/

namespace ServiceRecords.Dns.Zone

def isDot (c : Char) : Bool := c == '.'

/-- The zone text without surrounding blanks and final dots. -/
def published (zone : String) : String :=
  .ofList (Text.dropEnd isDot (Text.trim zone).toList)

def labels (zone : String) : List String :=
  Text.segments '.' (published zone)

/-- The zone text without surrounding blanks, then without surrounding dots, in lower case. -/
def normalize (zone : String) : String :=
  (String.ofList (Text.dropEnds isDot (Text.trim zone).toList)).toLower

end ServiceRecords.Dns.Zone
