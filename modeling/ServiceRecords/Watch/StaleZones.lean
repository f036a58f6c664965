import Std.Data.ExtTreeSet
import ServiceRecords.Dns.Zone
import ServiceRecords.Key

set_option autoImplicit false

/-!
Stale zones: where a key may still have entries although its service is gone or published
elsewhere. Zones are recorded in the form in which they are compared.
-/

namespace ServiceRecords

/-- A zone that a key may have left entries in. -/
structure StaleMark where
  key : Key
  zone : String
  deriving DecidableEq, Repr

namespace StaleMark

instance : Ord StaleMark where
  compare := compareLex (compareOn StaleMark.key) (compareOn StaleMark.zone)

instance : Std.TransOrd StaleMark :=
  inferInstanceAs (Std.TransCmp (compareLex (compareOn StaleMark.key) (compareOn StaleMark.zone)))

instance : Std.LawfulEqOrd StaleMark where
  eq_of_compare {a b} h := by
    have key_eq : compare a.key b.key = .eq := (compareLex_eq_eq.mp h).1
    have zone_eq : compare a.zone b.zone = .eq := (compareLex_eq_eq.mp h).2
    cases a
    cases b
    congr
    · exact Std.LawfulEqOrd.eq_of_compare key_eq
    · exact Std.LawfulEqOrd.eq_of_compare zone_eq

end StaleMark

structure StaleZones where
  marks : Std.ExtTreeSet StaleMark

namespace StaleZones

def empty : StaleZones := ⟨∅⟩

/-- The stale zones of a key, in order. -/
def zones (stale : StaleZones) (key : Key) : List String :=
  (stale.marks.toList.filter (·.key = key)).map (·.zone)

/-- Records a zone, unless nothing is left of it in normal form. -/
def mark (stale : StaleZones) (key : Key) (zone : String) : StaleZones :=
  let zone := Dns.Zone.normalize zone
  if zone = "" then stale else ⟨stale.marks.insert ⟨key, zone⟩⟩

/-- Removes exactly the given zones of a key. -/
def clear (stale : StaleZones) (key : Key) (zones : List String) : StaleZones :=
  ⟨stale.marks.filter fun mark => !(mark.key = key && zones.contains mark.zone)⟩

end StaleZones

end ServiceRecords
