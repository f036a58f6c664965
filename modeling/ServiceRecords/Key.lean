import Std.Data.ExtTreeMap

set_option autoImplicit false

/-!
Keys of services. A key names one service for good; keys are ordered by namespace, then by name.
-/

namespace ServiceRecords

structure Key where
  ns : String
  name : String
  deriving DecidableEq, Repr

namespace Key

def text (key : Key) : String := key.ns ++ "/" ++ key.name

instance : Ord Key where
  compare := compareLex (compareOn Key.ns) (compareOn Key.name)

instance : Std.TransOrd Key :=
  inferInstanceAs (Std.TransCmp (compareLex (compareOn Key.ns) (compareOn Key.name)))

instance : Std.LawfulEqOrd Key where
  eq_of_compare {a b} h := by
    have ns_eq : compare a.ns b.ns = .eq := (compareLex_eq_eq.mp h).1
    have name_eq : compare a.name b.name = .eq := (compareLex_eq_eq.mp h).2
    cases a
    cases b
    congr
    · exact Std.LawfulEqOrd.eq_of_compare ns_eq
    · exact Std.LawfulEqOrd.eq_of_compare name_eq

/-- The keys in order, with their repetitions. -/
def sort (keys : List Key) : List Key := keys.mergeSort fun a b => (compare a b).isLE

/-- How the cluster refers to the service of the key. -/
def reference (key : Key) : String :=
  "RpcService.v1alpha1.rpc.firestoned.io/" ++ key.name ++ "." ++ key.ns

end Key

end ServiceRecords
