import Std.Data.ExtTreeMap

set_option autoImplicit false

/-!
Failure counts: how often each key has failed since it was last forgotten. A count stays at the
greatest 32-bit number once it is there.
-/

namespace ServiceRecords

structure Failures (κ : Type) [Ord κ] where
  counts : Std.ExtTreeMap κ Nat

namespace Failures

variable {κ : Type} [Ord κ] [Std.TransOrd κ]

def maxCount : Nat := UInt32.size - 1

def empty : Failures κ := ⟨∅⟩

def count (failures : Failures κ) (key : κ) : Nat := failures.counts[key]?.getD 0

def increment (failures : Failures κ) (key : κ) : Failures κ :=
  ⟨failures.counts.insert key (min (failures.count key + 1) maxCount)⟩

def forget (failures : Failures κ) (key : κ) : Failures κ :=
  ⟨failures.counts.erase key⟩

@[simp] theorem count_empty (key : κ) : (empty : Failures κ).count key = 0 := by
  simp [count, empty]

variable [Std.LawfulEqOrd κ] [DecidableEq κ]

theorem count_increment (failures : Failures κ) (key other : κ) :
    (failures.increment key).count other =
      if key = other then min (failures.count key + 1) maxCount else failures.count other := by
  simp only [count, increment, Std.ExtTreeMap.getElem?_insert, Std.LawfulEqOrd.compare_eq_iff_eq]
  split <;> simp_all

theorem count_forget (failures : Failures κ) (key other : κ) :
    (failures.forget key).count other = if key = other then 0 else failures.count other := by
  simp only [count, forget, Std.ExtTreeMap.getElem?_erase, Std.LawfulEqOrd.compare_eq_iff_eq]
  split <;> simp_all

end Failures

end ServiceRecords
