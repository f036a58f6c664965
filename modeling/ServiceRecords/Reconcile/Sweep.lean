import Std.Data.ExtTreeSet
import ServiceRecords.Reconcile.Reconcile

set_option autoImplicit false

/-!
The sweep looks for owned entries that no cached service accounts for. It marks the zone of each
as stale and has their keys reconciled; it writes nothing itself.
-/

namespace ServiceRecords

/-- Marks the entries that no live service of their key and zone accounts for; their keys. -/
def markOrphans (layout : Layout) : List (String × String) → Procedure (Std.ExtTreeSet Key)
  | [] => return ∅
  | (entryKey, value) :: rest => do
    match (if layout.owns value then layout.locate? entryKey else none) with
    | none => markOrphans layout rest
    | some location =>
      let cached ← Procedure.request (.readService location.key)
      if wantedZone? cached = some location.zone then markOrphans layout rest
      else
        Procedure.request (.markStale location.key location.zone)
        let others ← markOrphans layout rest
        return others.insert location.key

/-- Sweeps everything below the root; the number of keys that are to be reconciled. -/
def sweep (layout : Layout) : ExceptT StoreError Procedure Nat := do
  let entries ← ExceptT.mk (Procedure.request (.list (layout.root ++ "/")))
  let orphans ← ExceptT.lift (markOrphans layout entries)
  orphans.toList.forM fun key => ExceptT.lift (Procedure.request (.enqueue key))
  return orphans.size

end ServiceRecords
